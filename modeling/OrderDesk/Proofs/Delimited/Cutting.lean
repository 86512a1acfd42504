import OrderDesk.Delimited

/-!
# Cutting rows out of a text

A text falls into pieces, each with the symbols of one row: the line break that ends the row is
its last one, and empty lines belong to the row behind them (`pieces`, `flatten_pieces`). A piece
is read as its row wherever it stands behind other pieces, because the reader starts anew behind
it. So when some pieces are taken out of a text, what is read is the rows without the ones of
those pieces (`readRows_eraseRows`).
-/

namespace OrderDesk.Delimited

/-! ### Lists without some places -/

section Without

variable {α β : Type}

/-- The elements of a list that are not at some places, which are counted from a number on. -/
def without (places : List Nat) (first : Nat) : List α → List α
  | [] => []
  | a :: rest =>
    if first ∈ places then without places (first + 1) rest
    else a :: without places (first + 1) rest

theorem without_map (f : α → β) (places : List Nat) (first : Nat) (as : List α) :
    without places first (as.map f) = (without places first as).map f := by
  induction as generalizing first with
  | nil => rfl
  | cons a rest ih =>
    rw [List.map_cons, without, without, ih]
    split <;> rfl

/-- Places before the first element do not count. -/
theorem without_of_lt {place first : Nat} (h : place < first) (places : List Nat) (as : List α) :
    without (place :: places) first as = without places first as := by
  induction as generalizing first with
  | nil => rfl
  | cons a rest ih =>
    have hne : first ≠ place := (Nat.ne_of_lt h).symm
    simp only [without, List.mem_cons, hne, false_or, ih (Nat.lt_succ_of_lt h)]

end Without

/-! ### Pieces -/

variable {σ : Type} (code : σ → Nat)

/-- Cuts a text behind every line break that ends a row, from a place on, with the symbols since the
last cut, the last one first. -/
def piecesFrom (place : Place) (piece : List σ) : List σ → List (List σ)
  | [] => if piece.isEmpty then [] else [piece.reverse]
  | c :: rest =>
    match action place (markOf (code c)) with
    | .skip next => piecesFrom next (c :: piece) rest
    | .keep next => piecesFrom next (c :: piece) rest
    | .endField => piecesFrom .fieldStart (c :: piece) rest
    | .endRow => (c :: piece).reverse :: piecesFrom .lineStart [] rest

/-- The pieces of a text, one for each row. Empty lines at the end make one piece more. -/
def pieces (text : List σ) : List (List σ) := piecesFrom code .lineStart [] text

/-- A text without the rows at some places; the first row is at place 0. -/
def eraseRows (places : List Nat) (text : List σ) : List σ :=
  (without places 0 (pieces code text)).flatten

/-- No symbol gets lost. -/
theorem flatten_piecesFrom (place : Place) (piece text : List σ) :
    (piecesFrom code place piece text).flatten = piece.reverse ++ text := by
  induction text generalizing place piece with
  | nil =>
    rw [piecesFrom]
    split
    · rename_i hnone
      rw [List.isEmpty_iff.1 hnone]
      rfl
    · simp
  | cons c rest ih =>
    rw [piecesFrom]
    split <;> simp [ih]

theorem flatten_pieces (text : List σ) : (pieces code text).flatten = text :=
  flatten_piecesFrom code .lineStart [] text

theorem eq_lineEnd_of_endRow {place : Place} {mark : Mark} (h : action place mark = .endRow) :
    mark = .lineEnd := by
  cases place <;> cases mark <;> first | rfl | cases h

/-- Every piece but the last one ends with a line break. -/
theorem lineEnd_of_piecesFrom {place : Place} {symbols text piece next : List σ}
    {more : List (List σ)} (h : piecesFrom code place symbols text = piece :: next :: more) :
    ∃ before c, piece = before ++ [c] ∧ markOf (code c) = .lineEnd := by
  induction text generalizing place symbols with
  | nil =>
    rw [piecesFrom] at h
    split at h <;> cases h
  | cons c rest ih =>
    rw [piecesFrom] at h
    split at h
    · exact ih h
    · exact ih h
    · exact ih h
    · rename_i hrow
      obtain ⟨hpiece, -⟩ := List.cons.inj h
      exact ⟨symbols.reverse, c, by rw [← hpiece, List.reverse_cons], eq_lineEnd_of_endRow hrow⟩

/-! ### Pieces and rows -/

/-- Pieces of a text, and the rows that are read from them. Only in the last piece the row may go on
to the end of the text, or be missing. -/
inductive Cut : List (List σ) → List (List (List σ)) → Prop
  | nil : Cut [] []
  | blank {piece : List σ} (h : readRows code piece = []) : Cut [piece] []
  | last {piece : List σ} {row : List (List σ)} (h : readRows code piece = [row]) :
    Cut [piece] [row]
  | cons {piece : List σ} {row : List (List σ)} {pieces : List (List σ)}
    {rows : List (List (List σ))}
    (h : ∀ rest, readRows code (piece ++ rest) = row :: readRows code rest)
    (hrest : Cut pieces rows) : Cut (piece :: pieces) (row :: rows)

/-- At the end of a text, a row may be left over. -/
theorem readFrom_nil_cases (place : Place) (field : List σ) (fields : List (List σ)) :
    readFrom code place field fields [] = [] ∨
      ∃ row, readFrom code place field fields [] = [row] := by
  rw [readFrom]
  split
  · exact .inl rfl
  · exact .inr ⟨_, rfl⟩

/-- **The pieces are those of the rows**, when what was read since the last cut has led to where the
reader is. -/
theorem cut_piecesFrom {place : Place} {piece field : List σ} {fields : List (List σ)}
    (hread : ∀ rest, readRows code (piece.reverse ++ rest) = readFrom code place field fields rest)
    (text : List σ) :
    Cut code (piecesFrom code place piece text) (readFrom code place field fields text) := by
  induction text generalizing place piece field fields with
  | nil =>
    have hend := hread []
    rw [List.append_nil] at hend
    rw [piecesFrom]
    split
    · rename_i hnone
      rw [← hend, List.isEmpty_iff.1 hnone]
      exact .nil
    · rcases readFrom_nil_cases code place field fields with hrow | ⟨row, hrow⟩
      · rw [hrow] at hend ⊢
        exact .blank hend
      · rw [hrow] at hend ⊢
        exact .last hend
  | cons c rest ih =>
    have hstep : ∀ after, readRows code ((c :: piece).reverse ++ after) =
        readFrom code place field fields (c :: after) := by
      intro after
      rw [List.reverse_cons, List.append_assoc]
      exact hread (c :: after)
    rw [piecesFrom]
    cases haction : action place (markOf (code c)) with
    | skip next =>
      simp only [readFrom, haction] at hstep ⊢
      exact ih hstep
    | keep next =>
      simp only [readFrom, haction] at hstep ⊢
      exact ih hstep
    | endField =>
      simp only [readFrom, haction] at hstep ⊢
      exact ih hstep
    | endRow =>
      simp only [readFrom, haction] at hstep ⊢
      exact .cons hstep (ih fun _ => rfl)

/-- Taking out pieces takes out their rows. -/
theorem Cut.readRows_without {pieces : List (List σ)} {rows : List (List (List σ))}
    (h : Cut code pieces rows) (places : List Nat) (first : Nat) :
    readRows code (without places first pieces).flatten = without places first rows := by
  induction h generalizing first with
  | nil => rfl
  | @blank piece h =>
    simp only [without]
    split
    · rfl
    · simpa using h
  | @last piece row h =>
    simp only [without]
    split
    · rfl
    · simpa using h
  | cons h _ ih =>
    rw [without, without]
    split
    · exact ih _
    · rw [List.flatten_cons, h, ih]

/-- **Erasing rows of a text erases them from what is read.** -/
theorem readRows_eraseRows (places : List Nat) (text : List σ) :
    readRows code (eraseRows code places text) = without places 0 (readRows code text) :=
  (cut_piecesFrom code (fun _ => rfl) text).readRows_without code places 0

/-- A row may go over several lines of a text, and empty lines belong to the row behind them. -/
example : String.ofList (eraseRows Char.toNat [1] "a,b\n\"1\n2\",3\n\n4,5\n".toList) =
    "a,b\n\n4,5\n" := by decide +kernel

end OrderDesk.Delimited
