import Mathlib.Data.List.TakeWhile
import OrderDesk.Json.Printer
import OrderDesk.Json.Reader
import OrderDesk.Proofs.Json.Quoted
import OrderDesk.Proofs.Text.Digits

/-!
# Values are read from the text that they are written to

A value without binary numbers, with whole numbers that fit in 64 bits, and with no more levels than
a document may have, can be stored (`Storable`). Its text is cut into the tokens that it was made
of, as long as what follows cannot belong to it (`Ends`), and the tokens are put together into the
value again, whatever arrays and objects are open around it. Both are told at once by `Told`, by
induction on the value; `ofText?_text` is the case of a whole document.
-/

namespace OrderDesk.Json

open OrderDesk.Text

/-- The value can be stored: it has at most so many levels, and its numbers are whole and fit. -/
inductive Storable : Nat → Json → Prop
  | null {depth : Nat} : Storable depth .null
  | bool {depth : Nat} (b : Bool) : Storable depth (.bool b)
  | int {depth : Nat} {n : Int} (hlow : -9223372036854775808 ≤ n)
      (hhigh : n < 18446744073709551616) : Storable depth (.int n)
  | str {depth : Nat} (s : String) : Storable depth (.str s)
  | arr {depth : Nat} {items : List Json} (h : ∀ item ∈ items, Storable depth item) :
      Storable (depth + 1) (.arr items)
  | obj {depth : Nat} {entries : List (String × Json)}
      (h : ∀ entry ∈ entries, Storable depth entry.2) : Storable (depth + 1) (.obj entries)

/-! ### Whole numbers -/

namespace Numeral

theorem gatherWhole_eq {cs : List Char} {n : Nat} (h : Nat.ofDigitChars 10 cs n < Nat.pow 2 64) :
    gatherWhole n cs = (Nat.ofDigitChars 10 cs n, 0) := by
  induction cs generalizing n with
  | nil => rfl
  | cons c cs ih =>
    rw [ofDigitChars_ten_cons] at h ⊢
    have hfits : n * 10 + (c.toNat - 48) < Nat.pow 2 64 :=
      Nat.lt_of_le_of_lt (le_ofDigitChars _ _) h
    simp only [gatherWhole, if_pos hfits]
    exact ih h

theorem unsigned?_digitsOfNat (negative : Bool) (n : Nat) :
    unsigned? negative (digitsOfNat n) = some ⟨negative, digitsOfNat n, [], none⟩ := by
  have hdigits : ∀ c ∈ digitsOfNat n, c.isDigit = true := fun c => isDigit_of_mem_digitsOfNat
  have hsound : ((digitsOfNat n).isEmpty ||
      ((digitsOfNat n).head? == some '0' && (digitsOfNat n).length != 1)) = false := by
    by_cases hzero : n = 0
    · subst hzero
      rfl
    · simp [digitsOfNat_ne_nil, head?_digitsOfNat hzero]
  rw [unsigned?, List.takeWhile_eq_self_iff.2 hdigits, List.dropWhile_eq_nil_iff.2 hdigits]
  simp only [hsound, Bool.false_eq_true, if_false]
  rfl

theorem value_of_digits {negative : Bool} {n : Nat} (h : n < Nat.pow 2 64)
    (hsign : negative = true → 0 < n ∧ n ≤ Nat.pow 2 63) :
    (Numeral.mk negative (digitsOfNat n) [] none).value = .int (if negative then -n else n) := by
  have hgather : gatherWhole 0 (digitsOfNat n) = (n, 0) := by
    have hn : Nat.ofDigitChars 10 (digitsOfNat n) 0 = n := natOfDigits_digitsOfNat n
    rw [gatherWhole_eq (by rwa [hn]), hn]
  cases negative with
  | false => simp [value, hgather]
  | true => simp [value, hgather, hsign rfl]

end Numeral

namespace Token

theorem ofNumeral?_charsOfInt {n : Int} (hlow : -9223372036854775808 ≤ n)
    (hhigh : n < 18446744073709551616) : ofNumeral? (charsOfInt n) = some (.plain (.int n)) := by
  cases n with
  | ofNat n =>
    have hfits : n < Nat.pow 2 64 := by
      have hlt : (n : Int) < 18446744073709551616 := hhigh
      have hpow : Nat.pow 2 64 = 18446744073709551616 := rfl
      omega
    have hread : Numeral.ofChars? (digitsOfNat n) = some ⟨false, digitsOfNat n, [], none⟩ := by
      have hplain : Numeral.ofChars? (digitsOfNat n) = Numeral.unsigned? false (digitsOfNat n) := by
        unfold Numeral.ofChars?
        split
        · rename_i hminus
          have hdigit := isDigit_of_mem_digitsOfNat (hminus ▸ List.mem_cons_self)
          cases hdigit
        · rfl
      rw [hplain, Numeral.unsigned?_digitsOfNat]
    rw [charsOfInt, ofNumeral?, hread, Option.map_some, Numeral.value_of_digits hfits (by simp)]
    rfl
  | negSucc n =>
    have hfits : n + 1 ≤ Nat.pow 2 63 := by
      have : (n + 1 : Nat) ≤ 9223372036854775808 := by omega
      exact this
    have hread : Numeral.ofChars? ('-' :: digitsOfNat (n + 1)) =
        some ⟨true, digitsOfNat (n + 1), [], none⟩ := Numeral.unsigned?_digitsOfNat true (n + 1)
    have hbelow : n + 1 < Nat.pow 2 64 := Nat.lt_of_le_of_lt hfits (by decide)
    rw [charsOfInt, ofNumeral?, hread, Option.map_some,
      Numeral.value_of_digits hbelow fun _ => ⟨Nat.succ_pos n, hfits⟩]
    rfl

end Token

/-! ### Where a value ends -/

/-- Nothing that follows can belong to a value. -/
def Ends (rest : List Char) : Prop := ∀ c ∈ rest.head?, c = ',' ∨ c = ']' ∨ c = '\x7d'

theorem ends_nil : Ends [] := nofun

theorem ends_comma (rest : List Char) : Ends (',' :: rest) := by
  rintro c ⟨⟩
  exact .inl rfl

theorem ends_closeArray (rest : List Char) : Ends (']' :: rest) := by
  rintro c ⟨⟩
  exact .inr (.inl rfl)

theorem ends_closeObject (rest : List Char) : Ends ('\x7d' :: rest) := by
  rintro c ⟨⟩
  exact .inr (.inr rfl)

namespace Token

/-- A numeral goes on as long as there are characters that may stand in it. -/
theorem scanFrom_numeral {read : List Char} {cs : List Char} (hcs : ∀ c ∈ cs, inNumeral c = true)
    (done : List Token) (rest : List Char) :
    scanFrom (.numeral read) done (cs ++ rest) =
      scanFrom (.numeral (cs.reverse ++ read)) done rest := by
  induction cs generalizing read with
  | nil => rfl
  | cons c cs ih =>
    obtain ⟨hc, hcs⟩ := List.forall_mem_cons.1 hcs
    have hnext : next (.numeral read) done c = some (.numeral (c :: read), done) := if_pos hc
    rw [List.cons_append, scanFrom, hnext]
    simp only
    rw [ih hcs, List.reverse_cons, List.append_assoc]
    rfl

/-- A numeral ends where nothing follows that can belong to it. -/
theorem scanFrom_numeral_end {read : List Char} {token : Token} {rest : List Char}
    (htoken : ofNumeral? read.reverse = some token) (hrest : Ends rest) (done : List Token) :
    scanFrom (.numeral read) done rest = scanFrom .nothing (token :: done) rest := by
  cases rest with
  | nil =>
    simp [scanFrom, finish, htoken]
  | cons c rest =>
    have hc : inNumeral c = false := by
      rcases hrest c rfl with rfl | rfl | rfl <;> rfl
    have hnext : next (.numeral read) done c = start (token :: done) c := by
      rw [next, if_neg (by simp [hc]), htoken]
      rfl
    rw [scanFrom, hnext]
    rfl

theorem scanFrom_word_end {read : List Char} {token : Token} {rest : List Char}
    (htoken : ofWord? read.reverse = some token) (hrest : Ends rest) (done : List Token) :
    scanFrom (.word read) done rest = scanFrom .nothing (token :: done) rest := by
  cases rest with
  | nil =>
    simp [scanFrom, finish, htoken]
  | cons c rest =>
    have hc : c.isAlpha = false := by
      rcases hrest c rfl with rfl | rfl | rfl <;> rfl
    have hnext : next (.word read) done c = start (token :: done) c := by
      rw [next, if_neg (by simp [hc]), htoken]
      rfl
    rw [scanFrom, hnext]
    rfl

/-- A minus or a digit begins a numeral. -/
theorem start_numeral {c : Char} (h : c = '-' ∨ c.isDigit = true) (done : List Token) :
    start done c = some (.numeral [c], done) := by
  have hother : ∀ d : Char, d ≠ '-' ∧ d.isDigit = false → c ≠ d := by
    rintro d ⟨hminus, hdigit⟩ rfl
    rcases h with h | h
    · exact hminus h
    · rw [hdigit] at h
      cases h
  simp [start, hother ' ' (by decide), hother '\t' (by decide), hother '\n' (by decide),
    hother '\r' (by decide), hother '[' (by decide), hother ']' (by decide),
    hother '\x7b' (by decide), hother '\x7d' (by decide), hother ',' (by decide),
    hother ':' (by decide), hother '"' (by decide), h]

/-- **A whole number is one token.** -/
theorem scanFrom_charsOfInt {n : Int} (hlow : -9223372036854775808 ≤ n)
    (hhigh : n < 18446744073709551616) (done : List Token) {rest : List Char} (hrest : Ends rest) :
    scanFrom .nothing done (charsOfInt n ++ rest) =
      scanFrom .nothing (.plain (.int n) :: done) rest := by
  have hdigits : ∀ m : Nat, ∀ c ∈ digitsOfNat m, c.isDigit = true :=
    fun m c => isDigit_of_mem_digitsOfNat
  obtain ⟨first, more, hchars, hfirst, hmore⟩ : ∃ first more, charsOfInt n = first :: more ∧
      (first = '-' ∨ first.isDigit = true) ∧ ∀ c ∈ more, c.isDigit = true := by
    cases n with
    | ofNat n =>
      obtain ⟨first, more, hn⟩ := List.exists_cons_of_ne_nil (digitsOfNat_ne_nil n)
      have hall := hdigits n
      rw [hn] at hall
      obtain ⟨hfirst, hmore⟩ := List.forall_mem_cons.1 hall
      exact ⟨first, more, hn, .inr hfirst, hmore⟩
    | negSucc n => exact ⟨'-', digitsOfNat (n + 1), rfl, .inl rfl, hdigits (n + 1)⟩
  have hread : ofNumeral? (more.reverse ++ [first]).reverse = some (.plain (.int n)) := by
    rw [List.reverse_append, List.reverse_reverse, List.reverse_singleton, List.singleton_append,
      ← hchars]
    exact ofNumeral?_charsOfInt hlow hhigh
  have hnumeral : ∀ c ∈ more, inNumeral c = true := fun c hc => by simp [inNumeral, hmore c hc]
  have hbegin : next .nothing done first = some (.numeral [first], done) :=
    start_numeral hfirst done
  rw [hchars, List.cons_append, scanFrom, hbegin]
  simp only
  rw [scanFrom_numeral hnumeral, scanFrom_numeral_end hread hrest]

end Token

/-! ### Values -/

/-- Some tokens stand for a value. They are what its characters are cut into, and they are put
together into the value, whatever is open around it. -/
structure Told (depth : Nat) (value : Json) (tokens : List Token) : Prop where
  scanned : ∀ (done : List Token) {rest : List Char}, Ends rest →
    Token.scanFrom .nothing done (value.chars ++ rest) =
      Token.scanFrom .nothing (tokens.reverse ++ done) rest
  taken : ∀ {expect : Expect} {stack : List Frame} (rest : List Token),
    expect = .value ∨ expect = .valueOrClose → stack.length + depth ≤ maxDepth →
    readTokens expect stack (tokens ++ rest) =
      readTokens (place value stack).1 (place value stack).2 rest

/-- A value of one token. -/
theorem told_of_token {depth : Nat} {value : Json} {token : Token}
    (hscan : ∀ (done : List Token) {rest : List Char}, Ends rest →
      Token.scanFrom .nothing done (value.chars ++ rest) =
        Token.scanFrom .nothing (token :: done) rest)
    (htoken : token = .plain value ∨ ∃ s, value = .str s ∧ token = .text (some s)) :
    Told depth value [token] where
  scanned := hscan
  taken rest hexpect _ := by
    rcases hexpect with rfl | rfl <;> rcases htoken with rfl | ⟨s, rfl, rfl⟩ <;> rfl

/-- A value that is written as a word. -/
theorem told_of_word {depth : Nat} {value : Json} (word : List Char)
    (hword : Token.ofWord? word.reverse = some (.plain value))
    (hscan : ∀ (done : List Token) (rest : List Char),
      Token.scanFrom .nothing done (value.chars ++ rest) = Token.scanFrom (.word word) done rest) :
    Told depth value [.plain value] := by
  refine told_of_token (fun done rest hrest => ?_) (.inl rfl)
  rw [hscan, Token.scanFrom_word_end hword hrest]

theorem atDepth_of_le {stack : List Frame} {depth : Nat} (h : stack.length + (depth + 1) ≤ maxDepth)
    (value : Json) : atDepth stack value = value := by
  have hdrop : stack.drop (maxDepth - 1) = [] := List.drop_eq_nil_of_le (by omega)
  rw [atDepth, hdrop]
  rfl

/-- The items of an array up to the bracket that closes it, whatever items come before. -/
structure ToldItems (depth : Nat) (items : List Json) (tokens : List Token) : Prop where
  scanned : ∀ (done : List Token) (rest : List Char),
    Token.scanFrom .nothing done (itemChars items ++ ']' :: rest) =
      Token.scanFrom .nothing (.closeArray :: (tokens.reverse ++ done)) rest
  taken : ∀ {expect : Expect} {stack : List Frame} (before : List Json) (rest : List Token),
    expect = .value ∧ items ≠ [] ∨ expect = .valueOrClose →
    stack.length + (depth + 1) ≤ maxDepth →
    readTokens expect (.array before :: stack) (tokens ++ .closeArray :: rest) =
      readTokens (place (.arr (before.reverse ++ items)) stack).1
        (place (.arr (before.reverse ++ items)) stack).2 rest

theorem toldItems_nil (depth : Nat) : ToldItems depth [] [] where
  scanned done rest := rfl
  taken := by
    intro expect stack before rest hexpect hdepth
    obtain rfl : expect = .valueOrClose := by simpa using hexpect
    have hclose : take .valueOrClose (.array before :: stack) .closeArray =
        some (place (.arr before.reverse) stack) := by
      rw [take, closeArray, atDepth_of_le hdepth]
    rw [List.nil_append, readTokens, hclose, List.append_nil]

theorem toldItems_singleton {depth : Nat} {item : Json} {tokens : List Token}
    (h : Told depth item tokens) : ToldItems depth [item] tokens where
  scanned done rest := (h.scanned done (ends_closeArray rest)).trans rfl
  taken := by
    intro expect stack before rest hexpect hdepth
    have hclose : take .commaOrClose (.array (item :: before) :: stack) .closeArray =
        some (place (.arr (before.reverse ++ [item])) stack) := by
      rw [take, closeArray, atDepth_of_le hdepth, List.reverse_cons]
    rw [h.taken _ (hexpect.imp And.left id) (by rw [List.length_cons]; omega), place, readTokens,
      hclose]

theorem toldItems_cons {depth : Nat} {item : Json} {items : List Json} {tokens more : List Token}
    (h : Told depth item tokens) (hitems : items ≠ []) (hmore : ToldItems depth items more) :
    ToldItems depth (item :: items) (tokens ++ .comma :: more) where
  scanned done rest := by
    have hchars : itemChars (item :: items) = item.chars ++ ',' :: itemChars items := by
      cases items with
      | nil => exact absurd rfl hitems
      | cons next items => rfl
    rw [hchars, List.append_assoc, List.cons_append, h.scanned done (ends_comma _)]
    refine (hmore.scanned (.comma :: (tokens.reverse ++ done)) rest).trans ?_
    simp
  taken := by
    intro expect stack before rest hexpect hdepth
    rw [List.append_assoc, List.cons_append, h.taken _ (hexpect.imp And.left id)
      (by rw [List.length_cons]; omega)]
    refine (hmore.taken (item :: before) rest (.inl ⟨rfl, hitems⟩) hdepth).trans ?_
    rw [List.reverse_cons, List.append_assoc, List.singleton_append]

theorem exists_toldItems {depth : Nat} {items : List Json}
    (h : ∀ item ∈ items, ∃ tokens, Told depth item tokens) :
    ∃ tokens, ToldItems depth items tokens := by
  induction items with
  | nil => exact ⟨[], toldItems_nil depth⟩
  | cons item items ih =>
    obtain ⟨⟨tokens, htold⟩, hothers⟩ := List.forall_mem_cons.1 h
    by_cases hitems : items = []
    · subst hitems
      exact ⟨tokens, toldItems_singleton htold⟩
    · obtain ⟨more, hmore⟩ := ih hothers
      exact ⟨_, toldItems_cons htold hitems hmore⟩

/-- The entries of an object up to the brace that closes it, whatever entries come before. -/
structure ToldEntries (depth : Nat) (entries : List (String × Json)) (tokens : List Token) :
    Prop where
  scanned : ∀ (done : List Token) (rest : List Char),
    Token.scanFrom .nothing done (entryChars entries ++ '\x7d' :: rest) =
      Token.scanFrom .nothing (.closeObject :: (tokens.reverse ++ done)) rest
  taken : ∀ {expect : Expect} {stack : List Frame} (before : List (String × Json)) (last : String)
    (rest : List Token), expect = .key ∧ entries ≠ [] ∨ expect = .keyOrClose →
    stack.length + (depth + 1) ≤ maxDepth →
    readTokens expect (.object before last true :: stack) (tokens ++ .closeObject :: rest) =
      readTokens (place (.obj (before.reverse ++ entries)) stack).1
        (place (.obj (before.reverse ++ entries)) stack).2 rest

/-- The tokens of an entry. -/
def entryTokens (key : String) (tokens : List Token) : List Token :=
  .text (some key) :: .colon :: tokens

theorem scanFrom_entry {depth : Nat} {value : Json} {tokens : List Token}
    (h : Told depth value tokens) (key : String) (done : List Token) {rest : List Char}
    (hrest : Ends rest) :
    Token.scanFrom .nothing done (quotedChars key ++ ':' :: value.chars ++ rest) =
      Token.scanFrom .nothing ((entryTokens key tokens).reverse ++ done) rest := by
  have hcolon : ∀ done rest, Token.scanFrom .nothing done (':' :: rest) =
      Token.scanFrom .nothing (.colon :: done) rest := fun _ _ => rfl
  rw [List.append_assoc, List.cons_append, Token.scanFrom_quoted, hcolon, h.scanned _ hrest]
  simp [entryTokens]

/-- Behind an entry, its value stands under its key. -/
theorem readTokens_entry {depth : Nat} {value : Json} {tokens : List Token}
    (h : Told depth value tokens) {expect : Expect} (hexpect : expect = .key ∨ expect = .keyOrClose)
    {stack : List Frame} (hdepth : stack.length + (depth + 1) ≤ maxDepth) (key last : String)
    (before : List (String × Json)) (rest : List Token) :
    readTokens expect (.object before last true :: stack) (entryTokens key tokens ++ rest) =
      readTokens .commaOrClose (.object ((key, value) :: before) key true :: stack) rest := by
  have hkey :
      readTokens expect (.object before last true :: stack) (entryTokens key tokens ++ rest) =
        readTokens .value (.object before key true :: stack) (tokens ++ rest) := by
    rcases hexpect with rfl | rfl <;> rfl
  rw [hkey, h.taken _ (.inl rfl) (by rw [List.length_cons]; omega), place]

theorem toldEntries_nil (depth : Nat) : ToldEntries depth [] [] where
  scanned done rest := rfl
  taken := by
    intro expect stack before last rest hexpect hdepth
    obtain rfl : expect = .keyOrClose := by simpa using hexpect
    have hclose : take .keyOrClose (.object before last true :: stack) .closeObject =
        some (place (.obj before.reverse) stack) := by
      rw [take, closeObject, atDepth_of_le hdepth, if_pos rfl]
    rw [List.nil_append, readTokens, hclose, List.append_nil]

theorem toldEntries_singleton {depth : Nat} {value : Json} {tokens : List Token}
    (h : Told depth value tokens) (key : String) :
    ToldEntries depth [(key, value)] (entryTokens key tokens) where
  scanned done rest := (scanFrom_entry h key done (ends_closeObject rest)).trans rfl
  taken := by
    intro expect stack before last rest hexpect hdepth
    have hclose : take .commaOrClose (.object ((key, value) :: before) key true :: stack)
        .closeObject = some (place (.obj (before.reverse ++ [(key, value)])) stack) := by
      rw [take, closeObject, atDepth_of_le hdepth, if_pos rfl, List.reverse_cons]
    rw [readTokens_entry h (hexpect.imp And.left id) hdepth, readTokens, hclose]

theorem toldEntries_cons {depth : Nat} {value : Json} {entries : List (String × Json)}
    {tokens more : List Token} (h : Told depth value tokens) (hentries : entries ≠ [])
    (hmore : ToldEntries depth entries more) (key : String) :
    ToldEntries depth ((key, value) :: entries) (entryTokens key tokens ++ .comma :: more) where
  scanned done rest := by
    have hchars : entryChars ((key, value) :: entries) =
        quotedChars key ++ ':' :: value.chars ++ ',' :: entryChars entries := by
      cases entries with
      | nil => exact absurd rfl hentries
      | cons next entries => rfl
    rw [hchars, List.append_assoc, List.cons_append, scanFrom_entry h key done (ends_comma _)]
    refine (hmore.scanned (.comma :: ((entryTokens key tokens).reverse ++ done)) rest).trans ?_
    simp
  taken := by
    intro expect stack before last rest hexpect hdepth
    rw [List.append_assoc, List.cons_append, readTokens_entry h (hexpect.imp And.left id) hdepth]
    refine (hmore.taken ((key, value) :: before) key rest (.inl ⟨rfl, hentries⟩) hdepth).trans ?_
    rw [List.reverse_cons, List.append_assoc, List.singleton_append]

theorem exists_toldEntries {depth : Nat} {entries : List (String × Json)}
    (h : ∀ entry ∈ entries, ∃ tokens, Told depth entry.2 tokens) :
    ∃ tokens, ToldEntries depth entries tokens := by
  induction entries with
  | nil => exact ⟨[], toldEntries_nil depth⟩
  | cons entry entries ih =>
    obtain ⟨⟨tokens, htold⟩, hothers⟩ := List.forall_mem_cons.1 h
    by_cases hentries : entries = []
    · subst hentries
      exact ⟨_, toldEntries_singleton htold entry.1⟩
    · obtain ⟨more, hmore⟩ := ih hothers
      exact ⟨_, toldEntries_cons htold hentries hmore entry.1⟩

theorem told_arr {depth : Nat} {items : List Json} {tokens : List Token}
    (h : ToldItems depth items tokens) :
    Told (depth + 1) (.arr items) (.openArray :: (tokens ++ [.closeArray])) where
  scanned done rest _ := by
    have hopen : Token.scanFrom .nothing done ((Json.arr items).chars ++ rest) =
        Token.scanFrom .nothing (.openArray :: done) (itemChars items ++ ']' :: rest) := by
      rw [chars, List.append_assoc]
      rfl
    rw [hopen, h.scanned]
    simp
  taken := by
    intro expect stack rest hexpect hdepth
    have hopen : readTokens expect stack (.openArray :: (tokens ++ [.closeArray]) ++ rest) =
        readTokens .valueOrClose (.array [] :: stack) (tokens ++ .closeArray :: rest) := by
      rw [List.cons_append, List.append_assoc]
      rcases hexpect with rfl | rfl <;> rfl
    exact hopen.trans (h.taken [] rest (.inr rfl) hdepth)

theorem told_obj {depth : Nat} {entries : List (String × Json)} {tokens : List Token}
    (h : ToldEntries depth entries tokens) :
    Told (depth + 1) (.obj entries) (.openObject :: (tokens ++ [.closeObject])) where
  scanned done rest _ := by
    have hopen : Token.scanFrom .nothing done ((Json.obj entries).chars ++ rest) =
        Token.scanFrom .nothing (.openObject :: done) (entryChars entries ++ '\x7d' :: rest) := by
      rw [chars, List.append_assoc]
      rfl
    rw [hopen, h.scanned]
    simp
  taken := by
    intro expect stack rest hexpect hdepth
    have hopen : readTokens expect stack (.openObject :: (tokens ++ [.closeObject]) ++ rest) =
        readTokens .keyOrClose (.object [] "" true :: stack) (tokens ++ .closeObject :: rest) := by
      rw [List.cons_append, List.append_assoc]
      rcases hexpect with rfl | rfl <;> rfl
    exact hopen.trans (h.taken [] "" rest (.inr rfl) hdepth)

/-- **The text of a value is made of tokens that stand for the value.** -/
theorem exists_told {depth : Nat} {value : Json} (h : Storable depth value) :
    ∃ tokens, Told depth value tokens := by
  induction h with
  | null => exact ⟨_, told_of_word ['l', 'l', 'u', 'n'] rfl fun _ _ => rfl⟩
  | bool b =>
    cases b with
    | true => exact ⟨_, told_of_word ['e', 'u', 'r', 't'] rfl fun _ _ => rfl⟩
    | false => exact ⟨_, told_of_word ['e', 's', 'l', 'a', 'f'] rfl fun _ _ => rfl⟩
  | int hlow hhigh =>
    exact ⟨_, told_of_token (fun done _ hrest =>
      Token.scanFrom_charsOfInt hlow hhigh done hrest) (.inl rfl)⟩
  | str s =>
    exact ⟨_, told_of_token (fun done rest _ => Token.scanFrom_quoted s done rest)
      (.inr ⟨s, rfl, rfl⟩)⟩
  | arr _ ih =>
    obtain ⟨tokens, htold⟩ := exists_toldItems ih
    exact ⟨_, told_arr htold⟩
  | obj _ ih =>
    obtain ⟨tokens, htold⟩ := exists_toldEntries ih
    exact ⟨_, told_obj htold⟩

/-- **A value is read from its text.** -/
theorem ofText?_text {value : Json} (h : Storable maxDepth value) :
    ofText? value.text = some value := by
  obtain ⟨tokens, htold⟩ := exists_told h
  have hscan : Token.scan value.chars = some tokens := by
    have hend := htold.scanned [] ends_nil
    rw [List.append_nil, List.append_nil] at hend
    rw [Token.scan, hend, Token.scanFrom, Token.finish, List.reverse_reverse]
  have hread : ofTokens? tokens = some value := by
    have hdepth : ([] : List Frame).length + maxDepth ≤ maxDepth := Nat.le_refl maxDepth
    have hend := htold.taken [] (.inl rfl) hdepth
    rw [List.append_nil] at hend
    exact hend
  rw [ofText?, text, String.toList_ofList, ofChars?, hscan, Option.bind_some, hread]

end OrderDesk.Json
