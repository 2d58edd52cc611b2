import Mathlib.Data.List.TakeWhile
import Remoting.Config.Builder
import Remoting.Connection
import Remoting.Proofs.Escapes

/-!
# The host that a client connects to

The host of a configuration is written into a URI as it stands, brackets around bare addresses
apart, and the URI is read again. If a delimiter of URIs stands in the host, what is read is not
what was configured: `@` makes user information of a part of the host, `/`, `?`, `#` and, behind an
address, a backslash end the authority and take the port with them, and tabs and line breaks get
lost. Without delimiters the last colon of the authority is the one in front of the port, and so a
URI that is accepted is read as it was put together.
-/

namespace Remoting

namespace Target

/-! ## Hosts -/

/-- A host, as a connection is made to it. -/
inductive Host where
  | name (bytes : List UInt8)
  | address (pieces : List Nat)
  deriving DecidableEq

/-- The host that a part of a URI stands for. -/
def hostOf? (text : List Char) : Option Host :=
  match text with
  | '[' :: rest =>
    if rest.getLast? = some ']' then (Ipv6.parse? rest.dropLast).map .address else none
  | _ => if text.any forbiddenInHost.contains then none else some (.name (Percent.decode text))

/-- The host that somebody means who configures a text: an address may stand without brackets. -/
def meant? (text : List Char) : Option Host :=
  match Ipv6.parse? text with
  | some pieces => some (.address pieces)
  | none => hostOf? text

/-- A character that would end the host in a URI, or that would get lost. -/
def isDelimiter (c : Char) : Bool :=
  isIgnored c || endsAuthority c || c == '@' || c == '\\'

theorem forbidden_of_isDelimiter {c : Char} (h : isDelimiter c = true) : c ∈ forbiddenInHost := by
  simp only [isDelimiter, isIgnored, endsAuthority, Bool.or_eq_true, beq_iff_eq] at h
  rcases h with ((((rfl | rfl) | rfl) | (rfl | rfl) | rfl) | rfl) | rfl <;> decide

theorem not_isDelimiter_of_isAddressChar {c : Char} (h : Ipv6.isAddressChar c = true) :
    isDelimiter c = false := by
  cases hdelimiter : isDelimiter c with
  | false => rfl
  | true =>
      simp only [isDelimiter, isIgnored, endsAuthority, Bool.or_eq_true, beq_iff_eq] at hdelimiter
      rcases hdelimiter with ((((rfl | rfl) | rfl) | (rfl | rfl) | rfl) | rfl) | rfl <;>
        exact absurd h (by decide)

/-- How the host of a URI is written that stands for a configured host. -/
inductive Names (host : List Char) : List Char → Prop
  /-- An address, with or without brackets, is written in its normal form. -/
  | address {inner : List Char} {pieces : List Nat}
      (hhost : host = inner ∨ host = '[' :: inner ++ [']'])
      (hinner : Ipv6.parse? inner = some pieces) :
      Names host ('[' :: Ipv6.render pieces ++ [']'])
  /-- A name is written with percent encoding. -/
  | name (hchars : ∀ c ∈ host, c ∉ forbiddenInHost) : Names host (Percent.encode [] host)

theorem Names.not_isDelimiter {host text : List Char} (h : Names host text) {c : Char}
    (hc : c ∈ host) : isDelimiter c = false := by
  cases h with
  | @address inner pieces hhost hinner =>
      have hmem : c ∈ inner → isDelimiter c = false := fun hmem =>
        not_isDelimiter_of_isAddressChar (Ipv6.isAddressChar_of_parse? hinner hmem)
      rcases hhost with rfl | rfl
      · exact hmem hc
      · rcases List.mem_append.1 hc with hc | hc
        · rcases List.mem_cons.1 hc with rfl | hc
          · rfl
          · exact hmem hc
        · obtain rfl := List.mem_singleton.1 hc
          rfl
  | name hchars =>
      cases hdelimiter : isDelimiter c with
      | false => rfl
      | true => exact absurd (forbidden_of_isDelimiter hdelimiter) (hchars c hc)

theorem hostOf?_address {inner : List Char} {pieces : List Nat}
    (h : Ipv6.parse? inner = some pieces) :
    hostOf? ('[' :: inner ++ [']']) = some (.address pieces) := by
  simp [hostOf?, h]

theorem hostOf?_name {text : List Char} (h : ∀ c ∈ text, c ∉ forbiddenInHost) :
    hostOf? text = some (.name (Percent.decode text)) := by
  have hany : text.any forbiddenInHost.contains = false := by
    simpa using h
  unfold hostOf?
  split
  next rest => exact absurd (h '[' (List.mem_cons_self ..)) (by decide)
  next => rw [hany]; rfl

theorem not_forbidden_encode {text : List Char} (h : ∀ c ∈ text, c ∉ forbiddenInHost) :
    ∀ c ∈ Percent.encode [] text, c ∉ forbiddenInHost := by
  intro c hc
  rcases Percent.mem_encode hc with hmem | rfl | ⟨n, hn, rfl⟩
  · exact h c hmem
  · decide
  · clear hc
    revert n
    decide

/-- What is written stands for the host that is meant. -/
theorem Names.same {host text : List Char} (h : Names host text) :
    ∃ named, meant? host = some named ∧ hostOf? text = some named := by
  cases h with
  | @address inner pieces hhost hinner =>
      refine ⟨.address pieces, ?_, hostOf?_address (Ipv6.parse?_render_of_parse? hinner)⟩
      rcases hhost with rfl | rfl
      · rw [meant?, hinner]
      · -- an address has no brackets of its own
        cases hbrackets : Ipv6.parse? ('[' :: inner ++ [']']) with
        | none =>
            rw [meant?, hbrackets]
            exact hostOf?_address hinner
        | some =>
            have hchar := Ipv6.isAddressChar_of_parse? hbrackets (c := '[') (by simp)
            exact absurd hchar (by decide)
  | name hchars =>
      refine ⟨.name (Percent.decode host), ?_, ?_⟩
      · cases hparse : Ipv6.parse? host with
        | none =>
            rw [meant?, hparse]
            exact hostOf?_name hchars
        | some =>
            exact absurd (Ipv6.colon_mem_of_parse? hparse) fun hc => hchars ':' hc (by decide)
      · rw [← Percent.decode_encode]
        exact hostOf?_name (not_forbidden_encode hchars)

/-- A target is the one that was configured. -/
structure Faithful (target : Target) (protocol : Protocol) (host : String) (port : UInt16) :
    Prop where
  scheme : target.scheme = protocol.scheme.toList
  port : target.port = some port.toNat
  names : Names host.toList target.host
  /-- The host of the target is the host that is meant. -/
  same : ∃ named, meant? host.toList = some named ∧ hostOf? target.host = some named
  username : target.username = []
  password : target.password = none
  path : target.path = []
  query : target.query = none
  fragment : target.fragment = none

/-! ## Parts of an authority -/

theorem splitHost_append (inside : Bool) (text : List Char) :
    (splitHost inside text).1 ++ (splitHost inside text).2 = text := by
  induction text generalizing inside with
  | nil => rfl
  | cons c text ih =>
      rw [splitHost]
      split
      next => rfl
      next => exact congrArg (c :: ·) (ih _)

theorem splitHost_rest (inside : Bool) (text : List Char) :
    (splitHost inside text).2 = [] ∨ ∃ rest, (splitHost inside text).2 = ':' :: rest := by
  induction text generalizing inside with
  | nil => exact .inl rfl
  | cons c text ih =>
      rw [splitHost]
      split
      next hc =>
        simp only [Bool.and_eq_true, decide_eq_true_eq] at hc
        exact .inr ⟨text, by rw [hc.1]⟩
      next => exact ih _

/-- A text is split at its last colon in one way. -/
theorem split_colon {host host' digits digits' : List Char} (hdigits : ':' ∉ digits)
    (hdigits' : ':' ∉ digits') (h : host ++ ':' :: digits = host' ++ ':' :: digits') :
    host = host' ∧ digits = digits' := by
  -- if one host were longer, the digits of the other text would contain its colon
  rcases List.append_eq_append_iff.1 h with ⟨middle, rfl, hmiddle⟩ | ⟨middle, rfl, hmiddle⟩
  · cases middle with
    | nil => simpa using hmiddle
    | cons c middle =>
        rw [List.cons_append] at hmiddle
        cases hmiddle
        exact absurd (by simp) hdigits
  · cases middle with
    | nil => simpa [eq_comm] using hmiddle
    | cons c middle =>
        rw [List.cons_append] at hmiddle
        cases hmiddle
        exact absurd (by simp) hdigits'

/-- A text that starts with an opening and ends with a closing bracket. -/
theorem brackets_eq {text : List Char} (hhead : text.head? = some '[')
    (hlast : text.getLast? = some ']') : text = '[' :: (text.drop 1).dropLast ++ [']'] := by
  cases text with
  | nil => cases hhead
  | cons c rest =>
      obtain rfl := Option.some.inj hhead
      cases rest with
      | nil => cases hlast
      | cons d rest =>
          rw [List.getLast?_cons_cons] at hlast
          have hne : d :: rest ≠ [] := List.cons_ne_nil _ _
          rw [List.getLast?_eq_some_getLast hne] at hlast
          rw [List.drop_one, List.tail_cons, List.cons_append, ← Option.some.inj hlast,
            List.dropLast_concat_getLast]

theorem encodeHost_eq_ok {host text : List Char} (h : encodeHost host = .ok text) :
    (∃ inner pieces, host = '[' :: inner ++ [']'] ∧ Ipv6.parse? inner = some pieces ∧
      text = '[' :: Ipv6.render pieces ++ [']']) ∨
      host.head? ≠ some '[' ∧ (∀ c ∈ host, c ∉ forbiddenInHost) ∧
        text = Percent.encode [] host := by
  unfold encodeHost at h
  split at h
  next hhead =>
    split at h
    next hlast =>
      split at h
      next pieces hpieces =>
        cases h
        exact .inl ⟨_, pieces, brackets_eq hhead hlast, hpieces, rfl⟩
      next => cases h
    next => cases h
  next hhead =>
    split at h
    next => cases h
    next hchars =>
      cases h
      exact .inr ⟨hhead, by simpa using hchars, rfl⟩

/-- A port is all that is left of an authority, where no delimiter follows. -/
theorem readPort_eq_ok {text rest : List Char} {port : Option Nat}
    (h : readPort text = .ok (port, rest)) (hclean : ∀ c ∈ text, isDelimiter c = false) :
    ∀ c ∈ text, c.isDigit = true := by
  rw [← List.dropWhile_eq_nil_iff]
  simp only [readPort] at h
  split at h
  next => cases h
  next =>
    split at h
    next hrest => exact hrest
    next c more hrest =>
      split at h
      next hends =>
        -- only a delimiter ends a port
        have hmem : c ∈ text := List.dropWhile_subset _ (hrest ▸ List.mem_cons_self ..)
        have hc := hclean c hmem
        simp only [isDelimiter, Bool.or_eq_true] at hc hends
        rcases hends with hends | hends <;> simp [hends] at hc
      next => cases h

theorem readPort_toDigits {n : Nat} (h : n ≤ 65535) :
    readPort (Nat.toDigits 10 n) = .ok (some n, []) := by
  have hdigits : ∀ c ∈ Nat.toDigits 10 n, c.isDigit = true :=
    fun _ => Nat.isDigit_of_mem_toDigits (by decide) (by decide)
  have hvalue : (Nat.toDigits 10 n).foldl (fun n d => n * 10 + (d.toNat - '0'.toNat)) 0 = n := by
    have hread := Nat.ofDigitChars_toDigits (b := 10) (n := n) (by decide) (by decide)
    rw [Nat.ofDigitChars_eq_foldl] at hread
    simpa only [Nat.mul_comm 10] using hread
  have hsome : (Nat.toDigits 10 n).isEmpty = false := by
    simp [Nat.toDigits_ne_nil]
  simp only [readPort, List.takeWhile_eq_self_iff.2 hdigits, List.dropWhile_eq_nil_iff.2 hdigits,
    hvalue, hsome]
  rw [if_neg (by omega)]
  rfl

/-! ## Texts without delimiters -/

theorem splitAtSign_eq_none {text : List Char} (h : '@' ∉ text) : splitAtSign text = none := by
  simp [splitAtSign, h]

theorem userInfo_nil : userInfo [] = ([], none) := rfl

/-- A text that contains no delimiter is all authority, without user information. -/
theorem authority_of_clean {text : List Char} (h : ∀ c ∈ text, isDelimiter c = false) :
    text.filter (!isIgnored ·) = text ∧ text.takeWhile (!endsAuthority ·) = text ∧
      splitAtSign text = none := by
  refine ⟨List.filter_eq_self.2 fun c hc => ?_, List.takeWhile_eq_self_iff.2 fun c hc => ?_,
    splitAtSign_eq_none fun hmem => absurd (h '@' hmem) (by decide)⟩
  · have hclean := h c hc
    simp only [isDelimiter, Bool.or_eq_false_iff] at hclean
    simp [hclean]
  · have hclean := h c hc
    simp only [isDelimiter, Bool.or_eq_false_iff] at hclean
    simp [hclean]

theorem exists_encodeHost_of_parse {text scheme : List Char} {target : Target}
    (h : ∀ c ∈ text, isDelimiter c = false) (hparse : parse scheme text = .ok target) :
    ∃ host, encodeHost (splitHost false text).1 = .ok host := by
  obtain ⟨hkept, hauthority, hsign⟩ := authority_of_clean h
  simp only [parse, hkept, hauthority, hsign, List.drop_length, Option.getD_none] at hparse
  rw [if_neg (by simp)] at hparse
  cases hencode : encodeHost (splitHost false text).1 with
  | error fault =>
      rw [hencode] at hparse
      cases hparse
  | ok host => exact ⟨host, rfl⟩

/-- A text that contains no delimiter is a host and a port. -/
theorem parse_of_clean {text front digits : List Char} (h : ∀ c ∈ text, isDelimiter c = false)
    (hsplit : splitHost false text = (front, ':' :: digits)) (scheme : List Char) :
    parse scheme text = (encodeHost front).bind fun host =>
      if host = [] then .error .emptyHost
      else (readPort digits).map fun (port, pathText) =>
        ⟨scheme, [], none, host, port, readPath pathText, (readTail pathText).1,
          (readTail pathText).2⟩ := by
  obtain ⟨hkept, hauthority, hsign⟩ := authority_of_clean h
  simp only [parse, hkept, hauthority, hsign, hsplit, List.drop_length, Option.getD_none,
    userInfo_nil, List.append_nil]
  rw [if_neg (by simp)]
  cases encodeHost front with
  | error fault => rfl
  | ok host =>
      by_cases hempty : host = []
      · simp [hempty, Except.bind, bind, throw, throwThe, MonadExceptOf.throw]
      · cases readPort digits with
        | error fault => simp [hempty, Except.bind, bind, Except.map]
        | ok result => simp [hempty, Except.bind, bind, Except.map, pure, Except.pure]

theorem splitHost_name {host rest : List Char} (h : ∀ c ∈ host, c ≠ ':' ∧ c ≠ '[') :
    splitHost false (host ++ ':' :: rest) = (host, ':' :: rest) := by
  induction host with
  | nil => rfl
  | cons c host ih =>
      obtain ⟨⟨hcolon, hbracket⟩, hhost⟩ := List.forall_mem_cons.1 h
      have hinside : (c == '[' || (false && c != ']')) = false := by simp [hbracket]
      rw [List.cons_append, splitHost, hinside, ih hhost, if_neg (by simp [hcolon])]

theorem splitHost_brackets {inner rest : List Char} (h : ']' ∉ inner) :
    splitHost true (inner ++ ']' :: ':' :: rest) = (inner ++ [']'], ':' :: rest) := by
  induction inner with
  | nil => rfl
  | cons c inner ih =>
      obtain ⟨hc, hinner⟩ := not_or.1 (mt List.mem_cons.2 h)
      have hinside : (c == '[' || (true && c != ']')) = true := by simp [Ne.symm hc]
      rw [List.cons_append, splitHost, hinside, ih hinner, if_neg (by simp)]
      rfl

end Target

namespace Builder

theorem host_ne_nil {builder : Builder} {config : Config} (h : builder.build = .ok config) :
    builder.host.toList ≠ [] := by
  intro hempty
  rw [build, String.toList_eq_nil_iff.1 hempty] at h
  cases h

theorem build_eq {builder : Builder} {config : Config} (h : builder.build = .ok config) :
    config.protocol = builder.protocol ∧ config.host = builder.host ∧
      config.port = builder.port.getD builder.protocol.defaultPort := by
  simp only [build] at h
  split at h
  next => cases h
  next =>
    split at h
    next => cases h
    next =>
      split at h
      next => cases h
      next =>
        cases h
        exact ⟨rfl, rfl, rfl⟩

end Builder

namespace ConnectionSettings

open Target

theorem hostText_cases (host : String) :
    (hostText host = '[' :: host.toList ++ [']'] ∧ ':' ∈ host.toList ∧
      host.toList.head? ≠ some '[') ∨
    (hostText host = host.toList ∧ (':' ∈ host.toList → host.toList.head? = some '[')) := by
  unfold hostText
  by_cases hcolon : ':' ∈ host.toList <;> by_cases hhead : host.toList.head? = some '[' <;>
    simp [hcolon, hhead]

/-- What stands in a URI for a host that is named. -/
theorem hostText_of_names {host : String} {text : List Char} (h : Names host.toList text) :
    (∃ inner pieces, hostText host = '[' :: inner ++ [']'] ∧ Ipv6.parse? inner = some pieces ∧
      text = '[' :: Ipv6.render pieces ++ [']']) ∨
    (hostText host = host.toList ∧ (∀ c ∈ host.toList, c ∉ forbiddenInHost) ∧
      text = Percent.encode [] host.toList) := by
  cases h with
  | @address inner pieces hhost hinner =>
      refine .inl ⟨inner, pieces, ?_, hinner, rfl⟩
      rcases hostText_cases host with ⟨htext, -, hhead⟩ | ⟨htext, hhead⟩
      · rcases hhost with hhost | hhost
        · rw [htext, hhost]
        · rw [hhost] at hhead
          exact absurd rfl hhead
      · rcases hhost with rfl | hhost
        · -- the text of an address does not start with a bracket
          have hmem : '[' ∈ host.toList :=
            List.mem_of_mem_head? (hhead (Ipv6.colon_mem_of_parse? hinner))
          exact absurd (Ipv6.isAddressChar_of_parse? hinner hmem) (by decide)
        · rw [htext, hhost]
  | name hchars =>
      refine .inr ⟨?_, hchars, rfl⟩
      rcases hostText_cases host with ⟨-, hcolon, -⟩ | ⟨htext, -⟩
      · exact absurd (by decide) (hchars ':' hcolon)
      · exact htext

/-- A host is encoded as it is named. -/
theorem encodeHost_hostText {host : String} {text : List Char} :
    encodeHost (hostText host) = .ok text ↔ Names host.toList text := by
  constructor
  · intro h
    rcases encodeHost_eq_ok h with ⟨inner, pieces, hhost, hinner, rfl⟩ | ⟨hhead, hchars, rfl⟩
    · rcases hostText_cases host with ⟨htext, -⟩ | ⟨htext, -⟩
      · rw [htext] at hhost
        simp only [List.cons_append, List.cons.injEq, List.append_cancel_right_eq,
          true_and] at hhost
        exact .address (.inl hhost) hinner
      · exact .address (.inr (htext.symm.trans hhost)) hinner
    · rcases hostText_cases host with ⟨htext, -⟩ | ⟨htext, -⟩
      · rw [htext] at hhead
        exact absurd rfl hhead
      · rw [htext] at hchars ⊢
        exact .name hchars
  · intro h
    rcases hostText_of_names h with ⟨inner, pieces, htext, hinner, rfl⟩ | ⟨htext, hchars, rfl⟩
    · have hlast : ('[' :: inner ++ [']']).getLast? = some ']' := List.getLast?_concat
      have hinner' : (('[' :: inner ++ [']']).drop 1).dropLast = inner := List.dropLast_concat
      have hhead : ('[' :: inner ++ [']']).head? = some '[' := rfl
      rw [htext, encodeHost, if_pos hhead, if_pos hlast, hinner', hinner]
    · have hhead : host.toList.head? ≠ some '[' := fun hhead =>
        absurd (by decide) (hchars '[' (List.mem_of_mem_head? hhead))
      have hany : host.toList.any forbiddenInHost.contains = false := by simpa using hchars
      rw [htext, encodeHost, if_neg hhead, hany]
      rfl

theorem clean_authorityText {host : String} (h : ∀ c ∈ host.toList, isDelimiter c = false)
    (port : UInt16) : ∀ c ∈ authorityText host port, isDelimiter c = false := by
  have hhost : ∀ c ∈ hostText host, isDelimiter c = false := by
    rcases hostText_cases host with ⟨htext, -⟩ | ⟨htext, -⟩
    · rw [htext, List.forall_mem_append, List.forall_mem_cons, List.forall_mem_singleton]
      exact ⟨⟨rfl, h⟩, rfl⟩
    · rwa [htext]
  have hdigits : ∀ c ∈ Nat.toDigits 10 port.toNat, isDelimiter c = false := by
    intro c hc
    refine not_isDelimiter_of_isAddressChar (Ipv6.isAddressChar_of_isDigit ?_)
    exact Nat.isDigit_of_mem_toDigits (by decide) (by decide) hc
  rw [authorityText, List.forall_mem_append, List.forall_mem_cons]
  exact ⟨hhost, rfl, hdigits⟩

/-- If an authority without delimiters is accepted, its host ends where the port begins. -/
theorem splitHost_authorityText {host : String} {port : UInt16} {text : List Char}
    (hclean : ∀ c ∈ authorityText host port, isDelimiter c = false)
    (hencode : encodeHost (splitHost false (authorityText host port)).1 = .ok text)
    (hport : ∀ digits, (splitHost false (authorityText host port)).2 = ':' :: digits →
      ∃ result, readPort digits = .ok result) :
    splitHost false (authorityText host port) =
      (hostText host, ':' :: Nat.toDigits 10 port.toNat) := by
  have hdigits : ∀ c ∈ Nat.toDigits 10 port.toNat, c.isDigit = true :=
    fun _ => Nat.isDigit_of_mem_toDigits (by decide) (by decide)
  have happend := splitHost_append false (authorityText host port)
  rcases splitHost_rest false (authorityText host port) with hrest | ⟨digits, hrest⟩
  · -- the whole authority would be the host, with the colon and the digits of the port
    rw [hrest, List.append_nil] at happend
    rw [happend, authorityText] at hencode
    rcases encodeHost_eq_ok hencode with ⟨inner, -, hbrackets, -⟩ | ⟨-, hchars, -⟩
    · obtain ⟨front, last, hlast⟩ := List.eq_nil_or_concat (Nat.toDigits 10 port.toNat)
        |>.resolve_left Nat.toDigits_ne_nil
      rw [hlast, List.concat_eq_append, ← List.cons_append, ← List.append_assoc] at hbrackets
      obtain ⟨-, hsame⟩ := List.append_inj' hbrackets rfl
      have hdigit := hdigits last (by rw [hlast]; simp)
      rw [List.singleton_inj.1 hsame] at hdigit
      cases hdigit
    · exact absurd (by decide) (hchars ':' (by simp))
  · rw [hrest] at happend
    obtain ⟨⟨number, left⟩, hread⟩ := hport digits hrest
    have hall : ∀ c ∈ digits, c.isDigit = true := by
      refine readPort_eq_ok hread fun c hc => hclean c ?_
      rw [← happend]
      exact List.mem_append_right _ (List.mem_cons_of_mem _ hc)
    -- the colon that was found and the colon of the port are both the last one
    have hsplit := split_colon (fun hmem => absurd (hall ':' hmem) (by decide))
      (fun hmem => absurd (hdigits ':' hmem) (by decide)) happend
    exact Prod.ext hsplit.1 (hrest.trans (congrArg (':' :: ·) hsplit.2))

/-- The target of a host that is named. -/
theorem parse_of_names {host : String} {text : List Char} (h : Names host.toList text)
    (hne : host.toList ≠ []) (scheme : List Char) (port : UInt16) :
    parse scheme (authorityText host port) =
      .ok ⟨scheme, [], none, text, some port.toNat, [], none, none⟩ := by
  have hclean := clean_authorityText (fun c hc => h.not_isDelimiter hc) port
  have hsplit : splitHost false (authorityText host port) =
      (hostText host, ':' :: Nat.toDigits 10 port.toNat) := by
    rw [authorityText]
    rcases hostText_of_names h with ⟨inner, pieces, htext, hinner, -⟩ | ⟨htext, hchars, -⟩
    · have hclosing : ']' ∉ inner := fun hmem =>
        absurd (Ipv6.isAddressChar_of_parse? hinner hmem) (by decide)
      rw [htext, List.append_assoc, List.cons_append, List.singleton_append]
      exact congrArg (fun split => ('[' :: split.1, split.2)) (splitHost_brackets hclosing)
    · rw [htext]
      refine splitHost_name fun c hc => ⟨?_, ?_⟩
      · rintro rfl
        exact absurd (by decide) (hchars _ hc)
      · rintro rfl
        exact absurd (by decide) (hchars _ hc)
  have hencode : encodeHost (hostText host) = .ok text := encodeHost_hostText.2 h
  have htext : text ≠ [] := by
    cases h with
    | address => exact List.cons_ne_nil _ _
    | name hchars => exact Percent.encode_ne_nil hne
  have hport : port.toNat ≤ 65535 := Nat.le_of_lt_succ port.toNat_lt
  rw [parse_of_clean hclean hsplit, hencode, readPort_toDigits hport]
  simp only [Except.bind, htext, if_false, Except.map]
  rfl

/-- If a target is accepted and there is no delimiter in the host, the host is named. -/
theorem exists_names_of_parse {host : String} {port : UInt16} {scheme : List Char} {target : Target}
    (h : ∀ c ∈ host.toList, isDelimiter c = false)
    (hparse : parse scheme (authorityText host port) = .ok target) :
    ∃ text, Names host.toList text := by
  have hclean := clean_authorityText h port
  obtain ⟨text, hencode⟩ := exists_encodeHost_of_parse hclean hparse
  have hsplit := splitHost_authorityText hclean hencode fun digits hrest => by
    rw [parse_of_clean hclean (Prod.ext rfl hrest), hencode] at hparse
    cases hport : readPort digits with
    | error fault =>
        simp only [Except.bind, hport, Except.map] at hparse
        split at hparse <;> cases hparse
    | ok result => exact ⟨result, rfl⟩
  rw [hsplit] at hencode
  exact ⟨text, encodeHost_hostText.1 hencode⟩

/-- The target of a configuration whose host is named. -/
theorem ofConfig_of_names {config : Config} {text : List Char} (h : Names config.host.toList text)
    (hne : config.host.toList ≠ []) :
    ∃ settings, ofConfig config = .ok settings ∧
      settings.target =
        ⟨config.protocol.scheme.toList, [], none, text, some config.port.toNat, [], none,
          none⟩ := by
  refine ⟨⟨_, config.connectionTimeout, config.bindAddress, config.saslOptions⟩, ?_, rfl⟩
  simp only [ofConfig, targetOf, parse_of_names h hne]
  rfl

theorem parse_of_ofConfig {config : Config} {settings : ConnectionSettings}
    (h : ofConfig config = .ok settings) :
    parse config.protocol.scheme.toList (authorityText config.host config.port) =
      .ok settings.target := by
  simp only [ofConfig, targetOf] at h
  split at h
  next target hparse =>
    cases h
    exact hparse
  next => cases h

/-- A target is the configured one exactly if there is no delimiter in the host, and there is such
a target exactly if the host is named. -/
theorem targets_configured_host {builder : Builder} {config : Config}
    (hbuild : builder.build = .ok config) :
    (∀ settings, ofConfig config = .ok settings →
      (settings.target.Faithful builder.protocol builder.host
          (builder.port.getD builder.protocol.defaultPort) ↔
        ∀ c ∈ builder.host.toList, isDelimiter c = false)) ∧
    ((∃ settings, ofConfig config = .ok settings ∧
        settings.target.Faithful builder.protocol builder.host
          (builder.port.getD builder.protocol.defaultPort)) ↔
      ∃ text, Names builder.host.toList text) := by
  obtain ⟨hprotocol, hhost, hport⟩ := Builder.build_eq hbuild
  have hne : config.host.toList ≠ [] := hhost ▸ Builder.host_ne_nil hbuild
  rw [← hport, ← hprotocol, ← hhost]
  -- a host that is named has the target that was configured
  have hfaithful : ∀ {text}, Names config.host.toList text → ∃ settings,
      ofConfig config = .ok settings ∧
        settings.target.Faithful config.protocol config.host config.port := by
    intro text hnames
    obtain ⟨settings, hsettings, htarget⟩ := ofConfig_of_names hnames hne
    refine ⟨settings, hsettings, ?_⟩
    rw [htarget]
    exact ⟨rfl, rfl, hnames, hnames.same, rfl, rfl, rfl, rfl, rfl⟩
  refine ⟨fun settings hsettings => ⟨fun h c hc => h.names.not_isDelimiter hc, fun hclean => ?_⟩,
    fun ⟨settings, _, h⟩ => ⟨_, h.names⟩, fun ⟨text, hnames⟩ => hfaithful hnames⟩
  obtain ⟨text, hnames⟩ := exists_names_of_parse hclean (parse_of_ofConfig hsettings)
  obtain ⟨settings', hsettings', h⟩ := hfaithful hnames
  cases hsettings.symm.trans hsettings'
  exact h

/-- A builder whose host is an address without brackets, not in its normal form. -/
def bareAddress : Builder :=
  Builder.default.apply (.host "2001:DB8::0:1")

/-- A builder whose host has a delimiter. -/
def misleading : Builder :=
  Builder.default.apply (.host "user@evil.example")

theorem targets_configured_host_of_address :
    (∃ config, bareAddress.build = .ok config ∧ ∃ settings, ofConfig config = .ok settings ∧
      settings.target.Faithful .remoteHttp "2001:DB8::0:1" 9990) ∧
    ∃ config, misleading.build = .ok config ∧ ∃ settings, ofConfig config = .ok settings ∧
      settings.uri = "remote+http://user@evil.example:9990" ∧
      ¬ settings.target.Faithful .remoteHttp "user@evil.example" 9990 := by
  refine ⟨⟨_, rfl, ?_⟩, _, rfl, _, rfl, ?_, ?_⟩
  · have hinner : Ipv6.parse? "2001:DB8::0:1".toList = some [0x2001, 0xdb8, 0, 0, 0, 0, 0, 1] := by
      decide +kernel
    have hbuild : bareAddress.build = .ok _ := rfl
    exact (targets_configured_host hbuild).2.2 ⟨_, .address (.inl rfl) hinner⟩
  · decide +kernel
  · intro h
    have hbuild : misleading.build = .ok _ := rfl
    have hclean := ((targets_configured_host hbuild).1 _ rfl).1 h '@' (by decide +kernel)
    exact absurd hclean (by decide)

end ConnectionSettings

end Remoting
