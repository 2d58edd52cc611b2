import Mathlib.Data.List.Basic
import Remoting.Settings.Document

/-!
# Reading what was written

The readers of JSON documents take back what the writers have written. `Reads` says it of a reader,
a written value and every text that may follow a value inside an object. Texts come back whatever
characters they hold, natural numbers as long as they fit into a word, and an object comes back
member by member: `Members` is what its reader does to its state, one member after the other.
-/

namespace Remoting.Json

/-- The text behind a value inside an object. -/
inductive Ends : List Char → Prop where
  | comma (rest : List Char) : Ends (',' :: rest)
  | brace (rest : List Char) : Ends ('\x7d' :: rest)

/-- A reader takes a written value from what is left of a document. -/
def Reads {α : Type} (read : Reader α) (written : List Char) (value : α) : Prop :=
  ∀ rest offset, Ends rest →
    ∃ offset', read ⟨written ++ rest, offset⟩ = .ok (value, ⟨rest, offset'⟩)

/-- There are no blanks to be passed over. -/
theorem skipBlank_cons {ch : Char} (h : isBlank ch = false) (rest : List Char) (offset : Nat) :
    Cursor.skipBlank ⟨ch :: rest, offset⟩ = ⟨ch :: rest, offset⟩ := by
  simp [Cursor.skipBlank, h]

/-! ## Texts -/

/-- A control character is written with four hexadecimal digits. -/
theorem readUnitEscape_write {n : Nat} (h : n < 0x20) (rest : List Char) (offset : Nat) :
    ∃ offset', readUnitEscape
      ⟨'0' :: '0' :: Nat.digitChar (n / 16) :: Nat.digitChar (n % 16) :: rest, offset⟩ =
        .ok (Char.ofNat n, ⟨rest, offset'⟩) := by
  have hhex : ∀ n, n < 0x20 →
      ([('0' : Char), '0', Nat.digitChar (n / 16), Nat.digitChar (n % 16)].all isHexDigit = true ∧
        [('0' : Char), '0', Nat.digitChar (n / 16), Nat.digitChar (n % 16)].foldl
          (fun n d => n * 16 + hexValue d) 0 = n) := by
    decide
  obtain ⟨hall, hvalue⟩ := hhex n h
  have hread : readHex
      ⟨'0' :: '0' :: Nat.digitChar (n / 16) :: Nat.digitChar (n % 16) :: rest, offset⟩ =
        .ok (n, ⟨rest, offset + 4⟩) := by
    unfold readHex
    dsimp only [List.take_succ_cons, List.take_zero, List.drop_succ_cons, List.drop_zero]
    rw [if_pos ⟨rfl, hall⟩, hvalue]
    rfl
  refine ⟨offset + 4, ?_⟩
  unfold readUnitEscape
  rw [hread]
  show (if _ then _ else _) = _
  rw [if_neg (by omega), if_pos (by omega)]

/-- Every character is read back. -/
theorem readTextChar_write (ch : Char) (rest : List Char) (offset : Nat) :
    ∃ offset', readTextChar ⟨writeTextChar ch ++ rest, offset⟩ =
      .ok (some ch, ⟨rest, offset'⟩) := by
  unfold writeTextChar
  split_ifs with hquote hback hb hf hn hr ht hcontrol
  iterate 7
    · subst ch
      exact ⟨_, rfl⟩
  · obtain ⟨offset', hread⟩ := readUnitEscape_write hcontrol rest
      (offset + Char.utf8Size '\\' + Char.utf8Size 'u')
    rw [Char.ofNat_toNat] at hread
    refine ⟨offset', ?_⟩
    show (readUnitEscape ⟨'0' :: '0' :: Nat.digitChar (ch.toNat / 16) ::
      Nat.digitChar (ch.toNat % 16) :: rest, offset + Char.utf8Size '\\' + Char.utf8Size 'u'⟩ >>=
        fun found => Except.ok (some found.1, found.2)) = _
    rw [hread]
    rfl
  · refine ⟨offset + ch.utf8Size, ?_⟩
    simp [readTextChar, hcontrol, Cursor.next]

/-- The characters of a text are read up to its closing quote. -/
theorem readTextChars_write (chars rest : List Char) (offset : Nat) {steps : Nat}
    (h : chars.length < steps) :
    ∃ offset', readTextChars steps ⟨chars.flatMap writeTextChar ++ '"' :: rest, offset⟩ =
      .ok (chars, ⟨rest, offset'⟩) := by
  induction chars generalizing steps offset with
  | nil =>
      obtain ⟨steps, rfl⟩ := Nat.exists_eq_add_of_lt h
      exact ⟨_, rfl⟩
  | cons ch chars ih =>
      cases steps with
      | zero => exact absurd h (Nat.not_lt_zero _)
      | succ steps =>
          obtain ⟨middle, hchar⟩ := readTextChar_write ch
            (chars.flatMap writeTextChar ++ '"' :: rest) offset
          obtain ⟨offset', hrest⟩ := ih middle (Nat.lt_of_succ_lt_succ h)
          refine ⟨offset', ?_⟩
          rw [List.flatMap_cons, List.append_assoc, readTextChars, hchar]
          show (readTextChars steps _ >>= _) = _
          rw [hrest]
          rfl

theorem length_le_flatMap_write (chars : List Char) :
    chars.length ≤ (chars.flatMap writeTextChar).length := by
  induction chars with
  | nil => exact Nat.le_refl _
  | cons ch chars ih =>
      have hpos : 0 < (writeTextChar ch).length := by
        unfold writeTextChar
        split_ifs <;> exact Nat.succ_pos _
      rw [List.flatMap_cons, List.length_append, List.length_cons]
      omega

/-- Every text is read back from behind its opening quote. -/
theorem readText_write (text : String) (rest : List Char) (offset : Nat) :
    ∃ offset', readText ⟨text.toList.flatMap writeTextChar ++ '"' :: rest, offset⟩ =
      .ok (text, ⟨rest, offset'⟩) := by
  have hlt : text.toList.length <
      (text.toList.flatMap writeTextChar ++ '"' :: rest).length + 1 := by
    have hle := length_le_flatMap_write text.toList
    rw [List.length_append]
    omega
  obtain ⟨offset', hread⟩ := readTextChars_write text.toList rest offset hlt
  refine ⟨offset', ?_⟩
  unfold readText
  dsimp only
  rw [hread]
  show Except.ok (String.ofList text.toList, _) = _
  rw [String.ofList_toList]

theorem writeText_append (text : String) (rest : List Char) :
    writeText text ++ rest = '"' :: (text.toList.flatMap writeTextChar ++ '"' :: rest) := by
  simp [writeText]

theorem reads_string (expected text : String) :
    Reads (readString expected) (writeText text) text := by
  intro rest offset _
  obtain ⟨offset', hread⟩ := readText_write text rest (offset + Char.utf8Size '"')
  refine ⟨offset', ?_⟩
  unfold readString
  rw [writeText_append, skipBlank_cons rfl]
  exact hread

/-! ## Numbers -/

/-- The first digit of a positive number is not zero. -/
theorem head_toDigits {n : Nat} (h : n ≠ 0) :
    ∃ digit digits, Nat.toDigits 10 n = digit :: digits ∧ digit ≠ '0' := by
  induction n using Nat.strongRecOn with
  | ind n ih =>
      by_cases hlt : n < 10
      · have hdigit : ∀ n, n < 10 → n ≠ 0 → Nat.digitChar n ≠ '0' := by decide
        exact ⟨_, _, Nat.toDigits_of_lt_base hlt, hdigit n hlt h⟩
      · obtain ⟨digit, digits, heq, hne⟩ := ih (n / 10) (by omega) (by omega)
        refine ⟨digit, digits ++ [Nat.digitChar (n % 10)], ?_, hne⟩
        rw [Nat.toDigits_of_base_le (by decide) (Nat.not_lt.1 hlt), heq]
        rfl

theorem le_ofDigitChars (value : Nat) (digits : List Char) :
    value ≤ Nat.ofDigitChars 10 digits value := by
  induction digits generalizing value with
  | nil => exact Nat.le_refl _
  | cons digit digits ih =>
      refine Nat.le_trans ?_ (ih (10 * value + (digit.toNat - '0'.toNat)))
      omega

/-- Digits whose number fits into a word are all taken. -/
theorem extend_eq {value : Nat} {digits : List Char}
    (h : Nat.ofDigitChars 10 digits value ≤ maxNatural) :
    extend value digits = (Nat.ofDigitChars 10 digits value, []) := by
  induction digits generalizing value with
  | nil => rfl
  | cons digit digits ih =>
      have hvalue : value * 10 + digitValue digit = 10 * value + (digit.toNat - '0'.toNat) := by
        rw [Nat.mul_comm]
        rfl
      have hle : 10 * value + (digit.toNat - '0'.toNat) ≤ maxNatural :=
        Nat.le_trans (le_ofDigitChars _ digits) h
      rw [extend, hvalue, if_neg (Nat.not_lt.2 hle)]
      exact ih h

/-- Behind a number no digit follows. -/
theorem Ends.digits {rest : List Char} (h : Ends rest) {digits : List Char}
    (hdigits : ∀ digit ∈ digits, digit.isDigit = true) :
    (digits ++ rest).takeWhile Char.isDigit = digits ∧
      (digits ++ rest).dropWhile Char.isDigit = rest := by
  rw [List.takeWhile_append_of_pos hdigits, List.dropWhile_append_of_pos hdigits]
  cases h <;> exact ⟨List.append_nil _, rfl⟩

/-- A number that fits into a word is read back. -/
theorem readNumber_write {n : Nat} (h : n ≤ maxNatural) {rest : List Char} (hrest : Ends rest)
    (offset : Nat) :
    ∃ offset', readNumber true ⟨Nat.toDigits 10 n ++ rest, offset⟩ =
      .ok (.natural n, ⟨rest, offset'⟩) := by
  have hafter : ∀ offset, readAfterInteger true n 0 ⟨rest, offset⟩ =
      .ok (.natural n, ⟨rest, offset⟩) := fun offset => by
    cases hrest <;> rfl
  by_cases hzero : n = 0
  · subst hzero
    refine ⟨offset + Char.utf8Size '0', ?_⟩
    rw [← hafter]
    cases hrest <;> rfl
  · obtain ⟨digit, digits, heq, hne⟩ := head_toDigits hzero
    have hall : ∀ digit ∈ Nat.toDigits 10 n, digit.isDigit = true :=
      fun _ => Nat.isDigit_of_mem_toDigits (by decide) (by decide)
    obtain ⟨htake, hdrop⟩ := hrest.digits hall
    have hvalue : Nat.ofDigitChars 10 (Nat.toDigits 10 n) 0 = n :=
      Nat.ofDigitChars_toDigits (by decide) (by decide)
    have hextend : extend 0 (Nat.toDigits 10 n) = (n, []) := by
      rw [extend_eq (by rwa [hvalue]), hvalue]
    refine ⟨offset + (Nat.toDigits 10 n).length, ?_⟩
    unfold readNumber Cursor.skipDigits
    dsimp only
    rw [htake, hdrop, hextend]
    rw [heq] at hall ⊢
    split
    next hnil => cases hnil
    next hcons =>
      cases hcons
      exact absurd rfl hne
    next hcons =>
      cases hcons
      rw [if_pos (hall _ (List.mem_cons_self ..))]
      exact hafter _

theorem isBlank_of_isDigit {digit : Char} (h : digit.isDigit = true) : isBlank digit = false := by
  cases hblank : isBlank digit with
  | false => rfl
  | true =>
      simp only [isBlank, Bool.or_eq_true, beq_iff_eq] at hblank
      rcases hblank with ((rfl | rfl) | rfl) | rfl <;> cases h

theorem reads_nat {n greatest : Nat} (h : n ≤ greatest) (hword : n ≤ maxNatural)
    (expected : String) : Reads (readNat greatest expected) (Nat.toDigits 10 n) n := by
  intro rest offset hrest
  obtain ⟨offset', hread⟩ := readNumber_write hword hrest offset
  refine ⟨offset', ?_⟩
  have hall : ∀ digit ∈ Nat.toDigits 10 n, digit.isDigit = true :=
    fun _ => Nat.isDigit_of_mem_toDigits (by decide) (by decide)
  cases heq : Nat.toDigits 10 n with
  | nil => exact absurd heq Nat.toDigits_ne_nil
  | cons digit digits =>
      rw [heq] at hall hread
      have hdigit := hall digit (List.mem_cons_self ..)
      unfold readNat
      dsimp only
      rw [List.cons_append, skipBlank_cons (isBlank_of_isDigit hdigit)]
      split
      next hcons =>
        cases hcons
        cases hdigit
      next hcons =>
        cases hcons
        rw [if_pos hdigit]
        rw [List.cons_append] at hread
        rw [hread]
        show (if n ≤ greatest then _ else _) = _
        rw [if_pos h]
      next hnil => cases hnil

/-! ## Absent values -/

/-- What is there is read as it is written, `null` as absence. -/
theorem reads_option {α : Type} {read : Reader α} {write : α → List Char} (value : Option α)
    (hread : ∀ a, value = some a → Reads read (write a) a)
    (hwrite : ∀ a, value = some a → ∃ ch rest, write a = ch :: rest ∧ isBlank ch = false ∧
      ch ≠ 'n') :
    Reads (readOption read) (Settings.writeOption write value) value := by
  intro rest offset hrest
  cases value with
  | none => exact ⟨_, rfl⟩
  | some a =>
      obtain ⟨offset', hread⟩ := hread a rfl rest offset hrest
      obtain ⟨ch, tail, heq, hblank, hne⟩ := hwrite a rfl
      refine ⟨offset', ?_⟩
      unfold readOption
      simp only [Settings.writeOption]
      rw [heq, List.cons_append] at hread ⊢
      rw [skipBlank_cons hblank]
      split
      next hcons =>
        cases hcons
        exact absurd rfl hne
      next =>
        rw [hread]
        rfl

/-! ## Objects -/

/-- A member of an object as it is written. -/
def member (item : String × List Char) : List Char :=
  writeText item.1 ++ ':' :: item.2

/-- What a reader of members does to its state while it reads some members. -/
inductive Members {σ : Type} (read : String → σ → Reader σ) :
    σ → List (String × List Char) → σ → Prop
  | nil (state : σ) : Members read state [] state
  | cons {state middle last : σ} {name : String} {body : List Char}
      {items : List (String × List Char)} (first : Reads (read name state) (':' :: body) middle)
      (rest : Members read middle items last) : Members read state ((name, body) :: items) last

/-- The members behind the first one. -/
def following (items : List (String × List Char)) : List Char :=
  items.flatMap fun item => ',' :: member item

theorem following_append {items : List (String × List Char)} {rest : List Char}
    (hrest : Ends rest) :
    Ends (following items ++ rest) := by
  cases items with
  | nil => exact hrest
  | cons item items => exact .comma _

theorem length_le_following (items : List (String × List Char)) :
    items.length ≤ (following items).length := by
  induction items with
  | nil => exact Nat.le_refl _
  | cons item items ih =>
      simp only [following, List.flatMap_cons, List.length_append, List.length_cons] at ih ⊢
      omega

theorem intercalate_members (item : String × List Char) (items : List (String × List Char)) :
    [','].intercalate ((item :: items).map member) = member item ++ following items := by
  induction items generalizing item with
  | nil => simp [following, List.intercalate]
  | cons next items ih =>
      have hnext := ih next
      simp only [List.intercalate, List.map_cons, List.intersperse_cons_cons,
        List.flatten_cons] at hnext ⊢
      rw [hnext]
      simp [following]

/-- The key of a member is read, behind the comma that sets it off from the one before. -/
theorem nextKey_write (first : Bool) (name : String) (rest : List Char) (offset : Nat) :
    ∃ offset', nextKey first
      ⟨(if first then [] else [',']) ++ (writeText name ++ ':' :: rest), offset⟩ =
        .ok (some name, ⟨':' :: rest, offset'⟩) := by
  rw [writeText_append]
  cases first with
  | true =>
      obtain ⟨offset', hread⟩ := readText_write name (':' :: rest) (offset + Char.utf8Size '"')
      refine ⟨offset', ?_⟩
      show (readText _ >>= fun found => Except.ok (some found.1, found.2)) = _
      exact hread ▸ rfl
  | false =>
      obtain ⟨offset', hread⟩ := readText_write name (':' :: rest)
        (offset + Char.utf8Size ',' + 0 + Char.utf8Size '"')
      refine ⟨offset', ?_⟩
      show (readText _ >>= fun found => Except.ok (some found.1, found.2)) = _
      exact hread ▸ rfl

variable {σ : Type} {read : String → σ → Reader σ} {state last : σ}
  {items : List (String × List Char)}

/-- The members behind the first one and the closing bracket are read. -/
theorem readMembers_following (h : Members read state items last) (rest : List Char) (offset : Nat)
    {steps : Nat} (hsteps : items.length < steps) :
    ∃ offset', readMembers read steps false state ⟨following items ++ '\x7d' :: rest, offset⟩ =
      .ok (last, ⟨rest, offset'⟩) := by
  induction h generalizing steps offset with
  | nil state =>
      obtain ⟨steps, rfl⟩ := Nat.exists_eq_add_of_lt hsteps
      exact ⟨_, rfl⟩
  | @cons state middle last name body items first hrest ih =>
      cases steps with
      | zero => exact absurd hsteps (Nat.not_lt_zero _)
      | succ steps =>
          obtain ⟨behindKey, hkey⟩ := nextKey_write false name
            (body ++ (following items ++ '\x7d' :: rest)) offset
          obtain ⟨behindBody, hbody⟩ := first (following items ++ '\x7d' :: rest) behindKey
            (following_append (.brace rest))
          obtain ⟨offset', htail⟩ := ih behindBody (Nat.lt_of_succ_lt_succ hsteps)
          refine ⟨offset', ?_⟩
          have hitem : following ((name, body) :: items) ++ '\x7d' :: rest =
              [','] ++ (writeText name ++ ':' ::
                (body ++ (following items ++ '\x7d' :: rest))) := by
            simp [following, member]
          rw [hitem, readMembers]
          rw [if_neg Bool.false_ne_true] at hkey
          rw [hkey]
          show (read name state ⟨':' :: body ++ _, behindKey⟩ >>= _) = _
          rw [hbody]
          exact htail

/-- An object is read behind its opening bracket. -/
theorem readObject_write (h : Members read state items last) (rest : List Char) (offset : Nat) :
    ∃ offset', readObject read state
      ⟨[','].intercalate (items.map member) ++ '\x7d' :: rest, offset⟩ =
        .ok (last, ⟨rest, offset'⟩) := by
  unfold readObject
  cases h with
  | nil => exact ⟨_, rfl⟩
  | @cons _ middle _ name body items first hrest =>
      rw [intercalate_members]
      obtain ⟨behindKey, hkey⟩ := nextKey_write true name
        (body ++ (following items ++ '\x7d' :: rest)) offset
      obtain ⟨behindBody, hbody⟩ := first (following items ++ '\x7d' :: rest) behindKey
        (following_append (.brace rest))
      have hitem : member (name, body) ++ following items ++ '\x7d' :: rest =
          writeText name ++ ':' :: (body ++ (following items ++ '\x7d' :: rest)) := by
        simp [member]
      rw [if_pos rfl, List.nil_append] at hkey
      have hsteps : items.length <
          (writeText name ++ ':' :: (body ++ (following items ++ '\x7d' :: rest))).length := by
        have hle := length_le_following items
        simp only [List.length_append, List.length_cons]
        omega
      obtain ⟨offset', htail⟩ := readMembers_following hrest rest behindBody hsteps
      refine ⟨offset', ?_⟩
      dsimp only
      rw [hitem, readMembers, hkey]
      show (read name state ⟨':' :: body ++ _, behindKey⟩ >>= _) = _
      rw [hbody]
      exact htail

end Remoting.Json
