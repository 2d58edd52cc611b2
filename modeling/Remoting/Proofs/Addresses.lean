import Mathlib
import Remoting.Target.Ipv6

/-!
# The normal form of addresses

Only hexadecimal digits, colons and dots stand in a text that is read as an address, and it yields
eight pieces of sixteen bits. The normal form of the pieces is read as the same pieces, so it names
the address that the text names.
-/

namespace Remoting.Ipv6

/-- Whether the text of an address may contain a character. -/
def isAddressChar (c : Char) : Bool :=
  (hexValue? c).isSome || c == ':' || c == '.'

/-- Eight pieces of sixteen bits. -/
structure WellFormed (pieces : List Nat) : Prop where
  length : pieces.length = 8
  bounded : ∀ piece ∈ pieces, piece < 65536

/-! ## Hexadecimal numbers -/

theorem hexValue?_bounds {c : Char} {digit : Nat} (h : hexValue? c = some digit) :
    digit < 16 ∧ 48 ≤ c.toNat ∧ c.toNat ≤ 102 := by
  unfold hexValue? at h
  split at h
  next hdigit =>
    simp only [Char.isDigit, Bool.and_eq_true, decide_eq_true_eq] at hdigit
    have hrange : 48 ≤ c.toNat ∧ c.toNat ≤ 57 := hdigit
    have hvalue : c.toNat - 48 = digit := Option.some.inj h
    omega
  next =>
    split at h
    next hlower =>
      have hrange : 97 ≤ c.toNat ∧ c.toNat ≤ 102 := hlower
      have hvalue : c.toNat - 97 + 10 = digit := Option.some.inj h
      omega
    next =>
      split at h
      next hupper =>
        have hrange : 65 ≤ c.toNat ∧ c.toNat ≤ 70 := hupper
        have hvalue : c.toNat - 65 + 10 = digit := Option.some.inj h
        omega
      next => cases h

theorem hexValue?_digitChar {n : Nat} (h : n < 16) : hexValue? n.digitChar = some n := by
  revert n
  decide

theorem takeHex_lt (digits value : Nat) (text : List Char) :
    (takeHex digits value text).1 < (value + 1) * 16 ^ digits := by
  induction digits generalizing value text with
  | zero => simp [takeHex]
  | succ digits ih =>
      have hpos : 0 < 16 ^ digits := Nat.pow_pos (by decide)
      have hstop : value < (value + 1) * 16 ^ (digits + 1) :=
        Nat.lt_of_lt_of_le (Nat.lt_succ_self value)
          (Nat.le_mul_of_pos_right _ (Nat.pow_pos (by decide)))
      cases text with
      | nil => exact hstop
      | cons c text =>
          rw [takeHex]
          split
          next digit hdigit =>
            have hlt := (hexValue?_bounds hdigit).1
            -- a digit takes the value to at most fifteen above sixteen times itself
            have hle : value * 16 + digit + 1 ≤ (value + 1) * 16 := by omega
            calc (takeHex digits (value * 16 + digit) text).1
                < (value * 16 + digit + 1) * 16 ^ digits := ih _ _
              _ ≤ (value + 1) * 16 * 16 ^ digits := Nat.mul_le_mul_right _ hle
              _ = (value + 1) * 16 ^ (digits + 1) := by
                rw [Nat.pow_succ, Nat.mul_assoc, Nat.mul_comm 16]
          next => exact hstop

/-- What stands before the rest are hexadecimal digits. -/
theorem takeHex_append (digits value : Nat) (text : List Char) :
    ∃ front, text = front ++ (takeHex digits value text).2 ∧
      ∀ c ∈ front, (hexValue? c).isSome = true := by
  induction digits generalizing value text with
  | zero => exact ⟨[], rfl, by simp⟩
  | succ digits ih =>
      cases text with
      | nil => exact ⟨[], rfl, by simp⟩
      | cons c text =>
          rw [takeHex]
          split
          next digit hdigit =>
            obtain ⟨front, htext, hfront⟩ := ih (value * 16 + digit) text
            refine ⟨c :: front, by rw [List.cons_append, ← htext], ?_⟩
            rw [List.forall_mem_cons]
            exact ⟨by rw [hdigit]; rfl, hfront⟩
          next => exact ⟨[], rfl, by simp⟩

theorem takeHex_toDigits (digits value n : Nat) (rest : List Char) :
    takeHex ((Nat.toDigits 16 n).length + digits) value (Nat.toDigits 16 n ++ rest) =
      takeHex digits (value * 16 ^ (Nat.toDigits 16 n).length + n) rest := by
  induction n using Nat.strongRecOn generalizing digits rest with
  | ind n ih =>
      by_cases hlt : n < 16
      · rw [Nat.toDigits_of_lt_base hlt, List.length_singleton, Nat.add_comm 1 digits,
          List.singleton_append, takeHex, hexValue?_digitChar hlt, Nat.pow_one]
      · -- the digits in front of the last one are read first, by induction
        have hmod : n % 16 < 16 := Nat.mod_lt n (by decide)
        have hvalue : (value * 16 ^ (Nat.toDigits 16 (n / 16)).length + n / 16) * 16 + n % 16 =
            value * 16 ^ ((Nat.toDigits 16 (n / 16)).length + 1) + n := by
          rw [Nat.pow_succ, ← Nat.mul_assoc]
          omega
        rw [Nat.toDigits_of_base_le (by decide) (Nat.not_lt.1 hlt), List.length_append,
          List.length_singleton, List.append_assoc, Nat.add_assoc,
          ih (n / 16) (Nat.div_lt_self (by omega) (by decide)), Nat.add_comm 1 digits,
          List.singleton_append, takeHex, hexValue?_digitChar hmod]
        exact congrArg (takeHex digits · rest) hvalue

/-! ## Dotted forms -/

theorem octet?_eq_some {digits : List Char} {value : Nat} (h : octet? digits = some value) :
    (∀ c ∈ digits, c.isDigit = true) ∧ value ≤ 255 := by
  simp only [octet?] at h
  split at h
  next hall =>
    cases h
    exact ⟨List.all_eq_true.1 hall.1, hall.2.2.2.1⟩
  next => cases h

theorem octets {parts : List (List Char)} {values : List Nat}
    (h : parts.mapM octet? = some values) :
    (∀ part ∈ parts, ∀ c ∈ part, c.isDigit = true) ∧ ∀ value ∈ values, value ≤ 255 := by
  induction parts generalizing values with
  | nil =>
      cases h
      simp
  | cons part parts ih =>
      rw [List.mapM_cons] at h
      obtain ⟨value, hvalue, h⟩ := Option.bind_eq_some_iff.1 h
      obtain ⟨others, hothers, h⟩ := Option.bind_eq_some_iff.1 h
      cases h
      obtain ⟨hdigits, hle⟩ := octet?_eq_some hvalue
      obtain ⟨hparts, hvalues⟩ := ih hothers
      exact ⟨List.forall_mem_cons.2 ⟨hdigits, hparts⟩, List.forall_mem_cons.2 ⟨hle, hvalues⟩⟩

theorem mem_splitDots {text : List Char} {c : Char} (h : c ∈ text) :
    c = '.' ∨ ∃ part ∈ splitDots text, c ∈ part := by
  induction text using splitDots.induct with
  | case1 => cases h
  | case2 text ih =>
      rw [splitDots]
      rcases List.mem_cons.1 h with rfl | h
      · exact .inl rfl
      · exact (ih h).imp_right fun ⟨part, hpart, hc⟩ => ⟨part, List.mem_cons_of_mem _ hpart, hc⟩
  | case3 first text hfirst hsplit ih =>
      simp only [splitDots, hsplit]
      rcases List.mem_cons.1 h with rfl | h
      · exact .inr ⟨[c], List.mem_singleton.2 rfl, List.mem_singleton.2 rfl⟩
      · refine (ih h).imp_right fun ⟨part, hpart, hc⟩ => ?_
        rw [hsplit] at hpart
        cases hpart
  | case4 first text hfirst part parts hsplit ih =>
      simp only [splitDots, hsplit]
      rcases List.mem_cons.1 h with rfl | h
      · exact .inr ⟨c :: part, List.mem_cons_self .., List.mem_cons_self ..⟩
      · refine (ih h).imp_right fun ⟨part', hpart, hc⟩ => ?_
        rw [hsplit] at hpart
        rcases List.mem_cons.1 hpart with rfl | hpart
        · exact ⟨first :: part', List.mem_cons_self .., List.mem_cons_of_mem _ hc⟩
        · exact ⟨part', List.mem_cons_of_mem _ hpart, hc⟩

theorem isAddressChar_of_isDigit {c : Char} (h : c.isDigit = true) : isAddressChar c = true := by
  simp [isAddressChar, hexValue?, h]

theorem dotted?_eq_some {text : List Char} {pieces : List Nat} (h : dotted? text = some pieces) :
    (∀ c ∈ text, isAddressChar c = true) ∧ pieces.length = 2 ∧ ∀ piece ∈ pieces, piece < 65536 := by
  unfold dotted? at h
  split at h
  next a b c d hvalues =>
    cases h
    obtain ⟨hparts, hle⟩ := octets hvalues
    refine ⟨fun letter hletter => ?_, rfl, ?_⟩
    · rcases mem_splitDots hletter with rfl | ⟨part, hpart, hmem⟩
      · rfl
      · exact isAddressChar_of_isDigit (hparts part hpart letter hmem)
    · simp only [List.forall_mem_cons] at hle ⊢
      obtain ⟨ha, hb, hc, hd, -⟩ := hle
      exact ⟨by omega, by omega, by simp⟩
  next => cases h

/-! ## Texts that are read -/

/-- How pieces are read from a text as long as there is room for another one. -/
inductive Reads : Nat → Draft → List Char → Draft → Prop
  | done {room : Nat} {draft : Draft} : Reads room draft [] draft
  | gap {room : Nat} {draft result : Draft} {text : List Char} (hmark : draft.mark = none)
      (h : Reads room ⟨draft.pieces ++ [0], some (draft.pieces.length + 1)⟩ text result) :
      Reads (room + 1) draft (':' :: text) result
  | last {room : Nat} {draft : Draft} {digits : List Char} {value : Nat}
      (hdigits : ∀ c ∈ digits, (hexValue? c).isSome = true) (hvalue : value < 65536) :
      Reads (room + 1) draft digits ⟨draft.pieces ++ [value], draft.mark⟩
  | more {room : Nat} {draft result : Draft} {digits text : List Char} {value : Nat}
      (hdigits : ∀ c ∈ digits, (hexValue? c).isSome = true) (hvalue : value < 65536)
      (h : Reads room ⟨draft.pieces ++ [value], draft.mark⟩ text result) :
      Reads (room + 1) draft (digits ++ ':' :: text) result
  | dotted {room : Nat} {draft : Draft} {text : List Char} {pieces : List Nat}
      (hroom : draft.pieces.length ≤ 6) (hpieces : dotted? text = some pieces) :
      Reads (room + 1) draft text ⟨draft.pieces ++ pieces, draft.mark⟩

/-- What is read from a text that starts with neither a gap nor its end. -/
theorem readPieces_succ {room : Nat} {draft : Draft} {c : Char} {text : List Char} (hc : c ≠ ':') :
    readPieces (room + 1) draft (c :: text) =
      match (takeHex 4 0 (c :: text)).2 with
      | [] => some ⟨draft.pieces ++ [(takeHex 4 0 (c :: text)).1], draft.mark⟩
      | [':'] => none
      | ':' :: more =>
        readPieces room ⟨draft.pieces ++ [(takeHex 4 0 (c :: text)).1], draft.mark⟩ more
      | '.' :: _ =>
        if (takeHex 4 0 (c :: text)).2.length = (c :: text).length ∨
          6 < draft.pieces.length then none
        else (dotted? (c :: text)).map fun tail => ⟨draft.pieces ++ tail, draft.mark⟩
      | _ => none := by
  rw [readPieces.eq_def]
  split
  next heq => cases heq
  next heq _ => cases heq
  next heq =>
    cases heq
    exact absurd rfl hc
  next hroom _ _ =>
    cases hroom
    rfl

theorem reads_of_readPieces {room : Nat} {draft result : Draft} {text : List Char}
    (h : readPieces room draft text = some result) : Reads room draft text result := by
  induction room generalizing draft text with
  | zero =>
      cases text with
      | nil =>
          cases h
          exact .done
      | cons c text => cases h
  | succ room ih =>
      cases text with
      | nil =>
          cases h
          exact .done
      | cons c text =>
          -- a colon where a piece should begin closes a gap; otherwise what follows the digits
          -- decides
          by_cases hc : c = ':'
          · subst hc
            rw [readPieces] at h
            split at h
            next => cases h
            next hmark => exact .gap (by simpa using hmark) (ih h)
          · rw [readPieces_succ hc] at h
            obtain ⟨front, hfront, hdigits⟩ := takeHex_append 4 0 (c :: text)
            have hvalue : (takeHex 4 0 (c :: text)).1 < 65536 := takeHex_lt 4 0 (c :: text)
            split at h
            next hrest =>
              cases h
              rw [hrest, List.append_nil] at hfront
              rw [← hfront] at hdigits
              exact .last hdigits hvalue
            next => cases h
            next more _ hrest =>
              rw [hrest] at hfront
              rw [hfront]
              exact .more hdigits hvalue (ih h)
            next tail hrest =>
              split at h
              next => cases h
              next hroom =>
                obtain ⟨pieces, hpieces, rfl⟩ := Option.map_eq_some_iff.1 h
                exact .dotted (by omega) hpieces
            next => cases h

theorem isAddressChar_of_hexValue? {c : Char} (h : (hexValue? c).isSome = true) :
    isAddressChar c = true := by
  rw [isAddressChar, h]
  rfl

theorem Reads.isAddressChar {room : Nat} {draft result : Draft} {text : List Char}
    (h : Reads room draft text result) : ∀ c ∈ text, isAddressChar c = true := by
  induction h with
  | done => simp
  | gap _ _ ih => exact List.forall_mem_cons.2 ⟨rfl, ih⟩
  | last hdigits => exact fun c hc => isAddressChar_of_hexValue? (hdigits c hc)
  | more hdigits _ _ ih =>
      rw [List.forall_mem_append, List.forall_mem_cons]
      exact ⟨fun c hc => isAddressChar_of_hexValue? (hdigits c hc), rfl, ih⟩
  | dotted _ hpieces => exact (dotted?_eq_some hpieces).1

/-- A draft that has room for a number of pieces in an address. -/
structure Draft.Fits (draft : Draft) (room : Nat) : Prop where
  length : draft.pieces.length + room ≤ 8
  bounded : ∀ piece ∈ draft.pieces, piece < 65536
  mark : ∀ mark, draft.mark = some mark → mark ≤ draft.pieces.length

theorem Draft.Fits.append {draft : Draft} {room left : Nat} {pieces : List Nat}
    (h : draft.Fits room) (hlength : draft.pieces.length + pieces.length + left ≤ 8)
    (hpieces : ∀ piece ∈ pieces, piece < 65536) :
    (⟨draft.pieces ++ pieces, draft.mark⟩ : Draft).Fits left where
  length := by simpa using hlength
  bounded := List.forall_mem_append.2 ⟨h.bounded, hpieces⟩
  mark mark hmark := by
    have := h.mark mark hmark
    rw [List.length_append]
    omega

theorem Reads.fits {room : Nat} {draft result : Draft} {text : List Char}
    (h : Reads room draft text result) (hdraft : draft.Fits room) : ∃ left, result.Fits left := by
  induction h with
  | done => exact ⟨_, hdraft⟩
  | @gap room draft _ _ _ _ ih =>
      have hlength := hdraft.length
      have happend : (⟨draft.pieces ++ [0], draft.mark⟩ : Draft).Fits room :=
        hdraft.append (by rw [List.length_singleton]; omega) (by simp)
      refine ih ⟨happend.length, happend.bounded, ?_⟩
      rintro _ ⟨⟩
      simp
  | @last room draft _ value _ hvalue =>
      have hlength := hdraft.length
      exact ⟨room, hdraft.append (by rw [List.length_singleton]; omega) (by simpa using hvalue)⟩
  | @more room draft _ _ _ value _ hvalue _ ih =>
      have hlength := hdraft.length
      exact ih (hdraft.append (by rw [List.length_singleton]; omega) (by simpa using hvalue))
  | dotted hroom hpieces =>
      obtain ⟨-, htwo, hbounded⟩ := dotted?_eq_some hpieces
      exact ⟨0, hdraft.append (by omega) hbounded⟩

theorem Draft.Fits.wellFormed {draft : Draft} {left : Nat} {pieces : List Nat} (h : draft.Fits left)
    (hcomplete : draft.complete? = some pieces) : WellFormed pieces := by
  have hlength := h.length
  unfold Draft.complete? at hcomplete
  split at hcomplete
  next mark hmark =>
    cases hcomplete
    have hle := h.mark mark hmark
    -- the run is filled up to eight pieces
    refine ⟨?_, ?_⟩
    · simp only [List.length_append, List.length_take, List.length_replicate, List.length_drop]
      omega
    · simp only [List.forall_mem_append]
      refine ⟨⟨fun piece hpiece => h.bounded piece (List.mem_of_mem_take hpiece), ?_⟩,
        fun piece hpiece => h.bounded piece (List.mem_of_mem_drop hpiece)⟩
      intro piece hpiece
      rw [List.eq_of_mem_replicate hpiece]
      decide
  next =>
    split at hcomplete
    next height =>
      cases hcomplete
      exact ⟨height, h.bounded⟩
    next => cases hcomplete

/-- How the text of an address is read. -/
theorem parse?_eq_some {text : List Char} {pieces : List Nat} (h : parse? text = some pieces) :
    ∃ room draft rest result, draft.Fits room ∧ Reads room draft rest result ∧
      result.complete? = some pieces ∧ ∀ c ∈ text, c = ':' ∨ c ∈ rest := by
  unfold parse? at h
  split at h
  next => cases h
  next => cases h
  next rest =>
    obtain ⟨result, hread, hcomplete⟩ := Option.bind_eq_some_iff.1 h
    refine ⟨7, ⟨[0], some 1⟩, rest, result, ⟨by decide, by simp, by simp⟩,
      reads_of_readPieces hread, hcomplete, ?_⟩
    simp
  next => cases h
  next =>
    obtain ⟨result, hread, hcomplete⟩ := Option.bind_eq_some_iff.1 h
    exact ⟨8, ⟨[], none⟩, text, result, ⟨by decide, by simp, by simp⟩, reads_of_readPieces hread,
      hcomplete, fun c hc => .inr hc⟩

/-- A text that is read as an address yields eight pieces of sixteen bits. -/
theorem wellFormed_of_parse? {text : List Char} {pieces : List Nat}
    (h : parse? text = some pieces) : WellFormed pieces := by
  obtain ⟨room, draft, rest, result, hdraft, hreads, hcomplete, -⟩ := parse?_eq_some h
  obtain ⟨left, hfits⟩ := hreads.fits hdraft
  exact hfits.wellFormed hcomplete

/-- Only hexadecimal digits, colons and dots stand in a text that is read as an address. -/
theorem isAddressChar_of_parse? {text : List Char} {pieces : List Nat}
    (h : parse? text = some pieces) {c : Char} (hc : c ∈ text) : isAddressChar c = true := by
  obtain ⟨room, draft, rest, result, -, hreads, -, hchars⟩ := parse?_eq_some h
  rcases hchars c hc with rfl | hmem
  · rfl
  · exact hreads.isAddressChar c hmem

/-- The text of an address contains a colon. -/
theorem colon_mem_of_parse? {text : List Char} {pieces : List Nat}
    (h : parse? text = some pieces) : ':' ∈ text := by
  unfold parse? at h
  split at h
  next => cases h
  next => cases h
  next => exact List.mem_cons_self ..
  next => cases h
  next =>
    obtain ⟨result, hread, hcomplete⟩ := Option.bind_eq_some_iff.1 h
    -- without a colon there are at most two pieces
    cases reads_of_readPieces hread with
    | done => cases hcomplete
    | gap => exact List.mem_cons_self ..
    | last => cases hcomplete
    | more => simp
    | dotted _ hpieces =>
        obtain ⟨-, htwo, -⟩ := dotted?_eq_some hpieces
        simp [Draft.complete?, htwo] at hcomplete

/-! ## Texts that were written -/

theorem head_toDigits (n : Nat) : ∃ c text, Nat.toDigits 16 n = c :: text ∧ c ≠ ':' := by
  induction n using Nat.strongRecOn with
  | ind n ih =>
      by_cases hlt : n < 16
      · refine ⟨n.digitChar, [], Nat.toDigits_of_lt_base hlt, fun heq => ?_⟩
        have hvalue := hexValue?_digitChar hlt
        rw [heq, show hexValue? ':' = none by decide] at hvalue
        cases hvalue
      · obtain ⟨c, text, htext, hc⟩ := ih (n / 16) (Nat.div_lt_self (by omega) (by decide))
        refine ⟨c, text ++ [(n % 16).digitChar], ?_, hc⟩
        rw [Nat.toDigits_of_base_le (by decide) (Nat.not_lt.1 hlt), htext, List.cons_append]

/-- The number at the start of a text ends where there is no digit. -/
theorem takeHex_piece {n : Nat} (h : n < 65536) {rest : List Char}
    (hrest : ∀ digits value, takeHex digits value rest = (value, rest)) :
    takeHex 4 0 (Nat.toDigits 16 n ++ rest) = (n, rest) := by
  have hlength : (Nat.toDigits 16 n).length ≤ 4 :=
    (Nat.length_toDigits_le_iff (by decide) (by decide)).2 h
  obtain ⟨digits, hdigits⟩ := Nat.exists_eq_add_of_le hlength
  rw [hdigits, takeHex_toDigits, hrest, Nat.zero_mul, Nat.zero_add]

theorem takeHex_nil (digits value : Nat) : takeHex digits value [] = (value, []) := by
  cases digits <;> rfl

theorem takeHex_colon (digits value : Nat) (text : List Char) :
    takeHex digits value (':' :: text) = (value, ':' :: text) := by
  cases digits <;> rfl

/-- The last piece of a text. -/
theorem readPieces_last {n : Nat} (h : n < 65536) (room : Nat) (draft : Draft) :
    readPieces (room + 1) draft (Nat.toDigits 16 n) =
      some ⟨draft.pieces ++ [n], draft.mark⟩ := by
  have hread := takeHex_piece h takeHex_nil
  rw [List.append_nil] at hread
  obtain ⟨c, text, htext, hc⟩ := head_toDigits n
  rw [htext] at hread ⊢
  rw [readPieces_succ hc, hread]

/-- A piece with others behind it. -/
theorem readPieces_more {n : Nat} (h : n < 65536) (room : Nat) (draft : Draft) {more : List Char}
    (hmore : more ≠ []) :
    readPieces (room + 1) draft (Nat.toDigits 16 n ++ ':' :: more) =
      readPieces room ⟨draft.pieces ++ [n], draft.mark⟩ more := by
  have hread := takeHex_piece h (takeHex_colon · · more)
  obtain ⟨c, text, htext, hc⟩ := head_toDigits n
  rw [htext, List.cons_append] at hread ⊢
  rw [readPieces_succ hc, hread]
  cases more with
  | nil => exact absurd rfl hmore
  | cons => rfl

theorem renderPieces_cons (n : Nat) {pieces : List Nat} (h : pieces ≠ []) :
    renderPieces (n :: pieces) = Nat.toDigits 16 n ++ ':' :: renderPieces pieces := by
  cases pieces with
  | nil => exact absurd rfl h
  | cons => simp [renderPieces, List.intercalate]

theorem renderPieces_singleton (n : Nat) : renderPieces [n] = Nat.toDigits 16 n := by
  simp [renderPieces, List.intercalate]

theorem head_renderPieces {pieces : List Nat} (h : pieces ≠ []) :
    ∃ c text, renderPieces pieces = c :: text ∧ c ≠ ':' := by
  obtain ⟨n, pieces, rfl⟩ := List.exists_cons_of_ne_nil h
  obtain ⟨c, text, htext, hc⟩ := head_toDigits n
  by_cases hrest : pieces = []
  · rw [hrest, renderPieces_singleton]
    exact ⟨c, text, htext, hc⟩
  · rw [renderPieces_cons n hrest, htext]
    exact ⟨c, _, rfl, hc⟩

/-- Pieces that were written with colons between them. -/
theorem readPieces_renderPieces {pieces : List Nat} (h : ∀ piece ∈ pieces, piece < 65536)
    (room : Nat) (draft : Draft) :
    readPieces (pieces.length + room) draft (renderPieces pieces) =
      some ⟨draft.pieces ++ pieces, draft.mark⟩ := by
  induction pieces generalizing draft with
  | nil => simp [renderPieces, readPieces]
  | cons n pieces ih =>
      obtain ⟨hn, hpieces⟩ := List.forall_mem_cons.1 h
      rw [List.length_cons, Nat.add_right_comm]
      by_cases hrest : pieces = []
      · rw [hrest, renderPieces_singleton, readPieces_last hn]
      · obtain ⟨c, text, htext, -⟩ := head_renderPieces hrest
        rw [renderPieces_cons n hrest, readPieces_more hn _ _ (by simp [htext]), ih hpieces]
        simp

/-- Pieces that were written with a colon behind them. -/
theorem readPieces_renderPieces_append {pieces : List Nat} (hne : pieces ≠ [])
    (h : ∀ piece ∈ pieces, piece < 65536) (room : Nat) (draft : Draft) {more : List Char}
    (hmore : more ≠ []) :
    readPieces (pieces.length + room) draft (renderPieces pieces ++ ':' :: more) =
      readPieces room ⟨draft.pieces ++ pieces, draft.mark⟩ more := by
  induction pieces generalizing draft with
  | nil => exact absurd rfl hne
  | cons n pieces ih =>
      obtain ⟨hn, hpieces⟩ := List.forall_mem_cons.1 h
      rw [List.length_cons, Nat.add_right_comm]
      by_cases hrest : pieces = []
      · rw [hrest, renderPieces_singleton, readPieces_more hn _ _ hmore, List.length_nil,
          Nat.zero_add]
      · rw [renderPieces_cons n hrest, List.append_assoc, List.cons_append,
          readPieces_more hn _ _ (by simp), ih hrest hpieces]
        simp

theorem leadingZeros_eq (pieces : List Nat) :
    ∃ after, pieces = List.replicate (leadingZeros pieces) 0 ++ after := by
  induction pieces with
  | nil => exact ⟨[], rfl⟩
  | cons piece rest ih =>
      by_cases hzero : piece = 0
      · obtain ⟨after, hrest⟩ := ih
        have hcount : leadingZeros (0 :: rest) = leadingZeros rest + 1 := by simp [leadingZeros]
        refine ⟨after, ?_⟩
        rw [hzero, hcount, List.replicate_succ, List.cons_append, ← hrest]
      · refine ⟨piece :: rest, ?_⟩
        simp [leadingZeros, hzero]

/-- The longest run consists of zeros. -/
theorem longestRun_eq {pieces : List Nat} {start length : Nat}
    (h : longestRun pieces = (start, length)) :
    ∃ before after, pieces = before ++ List.replicate length 0 ++ after ∧
      before.length = start := by
  induction pieces generalizing start length with
  | nil =>
      cases h
      exact ⟨[], [], rfl, rfl⟩
  | cons piece rest ih =>
      obtain ⟨start', length', hrest⟩ : ∃ start' length', longestRun rest = (start', length') :=
        ⟨_, _, rfl⟩
      simp only [longestRun, hrest] at h
      split at h
      next =>
        cases h
        obtain ⟨after, hzeros⟩ := leadingZeros_eq (piece :: rest)
        exact ⟨[], after, hzeros, rfl⟩
      next =>
        cases h
        obtain ⟨before, after, heq, hlength⟩ := ih hrest
        refine ⟨piece :: before, after, ?_, by rw [List.length_cons, hlength]⟩
        rw [List.cons_append, List.cons_append, ← heq]

/-- A draft with one zero in the place of a run. -/
theorem complete?_gap (before after : List Nat) {length : Nat}
    (h : before.length + (length + 1) + after.length = 8) :
    Draft.complete? ⟨before ++ [0] ++ after, some (before.length + 1)⟩ =
      some (before ++ List.replicate (length + 1) 0 ++ after) := by
  have htake : (before ++ [0] ++ after).take (before.length + 1) = before ++ [0] :=
    List.take_left' (by simp)
  have hdrop : (before ++ [0] ++ after).drop (before.length + 1) = after :=
    List.drop_left' (by simp)
  have hfill : 8 - (before ++ [0] ++ after).length = length := by
    simp only [List.length_append, List.length_singleton]
    omega
  simp only [Draft.complete?, htake, hdrop, hfill]
  simp [List.replicate_succ]

/-- What was read from a text that does not start with a colon. -/
theorem parse?_of_head {c : Char} {text : List Char} (hc : c ≠ ':') (htext : text ≠ []) :
    parse? (c :: text) = (readPieces 8 ⟨[], none⟩ (c :: text)).bind Draft.complete? := by
  obtain ⟨d, text, rfl⟩ := List.exists_cons_of_ne_nil htext
  unfold parse?
  split
  next heq => cases heq
  next heq => cases heq
  next heq =>
    cases heq
    exact absurd rfl hc
  next heq =>
    cases heq
    exact absurd rfl hc
  next => rfl

/-- The normal form of an address is read as this address. -/
theorem parse?_render {pieces : List Nat} (h : WellFormed pieces) :
    parse? (render pieces) = some pieces := by
  obtain ⟨start, length, hrun⟩ : ∃ start length, longestRun pieces = (start, length) := ⟨_, _, rfl⟩
  have hlength := h.length
  simp only [render, hrun]
  split
  next =>
    -- there is no run to leave out
    have hread := readPieces_renderPieces h.bounded 0 ⟨[], none⟩
    obtain ⟨n, rest, rfl⟩ : ∃ n rest, pieces = n :: rest :=
      List.exists_cons_of_length_pos (by omega)
    have hrest : rest ≠ [] := by
      rintro rfl
      cases hlength
    obtain ⟨c, text, htext, hc⟩ := head_toDigits n
    rw [renderPieces_cons n hrest, htext, List.cons_append] at hread ⊢
    rw [hlength] at hread
    rw [parse?_of_head hc (by simp), hread]
    simp [Draft.complete?, hlength]
  next hlong =>
    -- what is left out is read as one zero, which is filled up to the run again
    obtain ⟨before, after, rfl, rfl⟩ := longestRun_eq hrun
    obtain ⟨length, rfl⟩ : ∃ length', length = length' + 1 := ⟨length - 1, by omega⟩
    have hbounded := h.bounded
    simp only [List.forall_mem_append] at hbounded
    obtain ⟨⟨hbefore, -⟩, hafter⟩ := hbounded
    simp only [List.length_append, List.length_replicate] at hlength
    have htake : (before ++ List.replicate (length + 1) 0 ++ after).take before.length =
        before := by
      rw [List.append_assoc]
      exact List.take_left' rfl
    have hdrop : (before ++ List.replicate (length + 1) 0 ++ after).drop
        (before.length + (length + 1)) = after := List.drop_left' (by simp)
    have hgap (room : Nat) := readPieces_renderPieces hafter room
      ⟨before ++ [0], some (before.length + 1)⟩
    have hcomplete := complete?_gap before after hlength
    rw [htake, hdrop]
    by_cases hempty : before = []
    · -- the run is at the start
      subst hempty
      have hread := hgap (7 - after.length)
      rw [show after.length + (7 - after.length) = 7 by omega] at hread
      exact (congrArg (·.bind Draft.complete?) hread).trans hcomplete
    · obtain ⟨c, text, htext, hc⟩ := head_renderPieces hempty
      have hread := readPieces_renderPieces_append hempty hbefore (8 - before.length) ⟨[], none⟩
        (List.cons_ne_nil ':' (renderPieces after))
      rw [show before.length + (8 - before.length) = 8 by omega,
        show 8 - before.length = (7 - before.length - after.length + after.length) + 1 by omega,
        readPieces, if_neg (by simp), Nat.add_comm _ after.length] at hread
      rw [List.append_assoc, htext, List.cons_append, parse?_of_head hc (by simp),
        ← List.cons_append, ← htext]
      exact (congrArg (·.bind Draft.complete?) (hread.trans (hgap _))).trans hcomplete

theorem parse?_render_of_parse? {text : List Char} {pieces : List Nat}
    (h : parse? text = some pieces) : parse? (render pieces) = some pieces :=
  parse?_render (wellFormed_of_parse? h)

end Remoting.Ipv6
