import Remoting.Proofs.Reading

/-!
# Settings that were written and read again

A document that was written from settings is read as these settings. Each field comes back from its
written value, the options because their keys are written in order, and the fields come back one
after the other because their keys differ. So a document says all there is to say of settings, and
what was read from any document can be written and read again.
-/

namespace Remoting

open Json (Reads Members member)

namespace Options

/-- An entry whose key comes after all others is placed at the end. -/
theorem place_eq_append {key : String} (value : String) {entries : List (String × String)}
    (h : ∀ entry ∈ entries, entry.1 < key) :
    place key value entries = entries ++ [(key, value)] := by
  induction entries with
  | nil => rfl
  | cons first rest ih =>
      have hfirst : first.1 < key := h first (List.mem_cons_self ..)
      rw [place, if_neg (String.lt_asymm hfirst), if_pos hfirst,
        ih fun entry hentry => h entry (List.mem_cons_of_mem _ hentry)]
      rfl

theorem insert_last (options : Options) (entry : String × String)
    (h : ∀ other ∈ options.entries, other.1 < entry.1) :
    (options.insert entry.1 entry.2).entries = options.entries ++ [entry] :=
  place_eq_append entry.2 h

end Options

namespace Settings

/-! ## Options -/

theorem reads_entry (options : Options) (entry : String × String) :
    Reads (readEntry entry.1 options) (':' :: Json.writeText entry.2)
      (options.insert entry.1 entry.2) := by
  intro rest offset hrest
  obtain ⟨offset', hread⟩ := Json.reads_string "a string" entry.2 rest
    (offset + 0 + Char.utf8Size ':') hrest
  refine ⟨offset', ?_⟩
  show (Json.readString "a string" _ >>= fun found =>
    Except.ok (options.insert entry.1 found.1, found.2)) = _
  exact hread ▸ rfl

/-- Entries that are read in the order of their keys are put one behind the other. -/
theorem members_options (before : Options) (entries : List (String × String)) {options : Options}
    (h : options.entries = before.entries ++ entries) :
    Members readEntry before (entries.map fun entry => (entry.1, Json.writeText entry.2))
      options := by
  induction entries generalizing before with
  | nil =>
      obtain rfl : options = before := by
        cases options
        cases before
        simpa using h
      exact .nil _
  | cons entry entries ih =>
      have hsorted := options.sorted
      rw [h] at hsorted
      have hlast : (before.insert entry.1 entry.2).entries = before.entries ++ [entry] :=
        before.insert_last entry fun other hother =>
          (List.pairwise_append.1 hsorted).2.2 other hother entry (List.mem_cons_self ..)
      exact .cons (reads_entry before entry) (ih _ (by rw [h, hlast, List.append_assoc]; rfl))

theorem reads_options (options : Options) : Reads readOptions (writeOptions options) options := by
  intro rest offset _
  obtain ⟨offset', hread⟩ := Json.readObject_write (members_options .empty options.entries rfl) rest
    (offset + 0 + Char.utf8Size '\x7b')
  refine ⟨offset', ?_⟩
  have hentries : options.entries.map writeEntry =
      (options.entries.map fun entry => (entry.1, Json.writeText entry.2)).map member := by
    rw [List.map_map]
    rfl
  show Json.readObject readEntry .empty
    ⟨([','].intercalate (options.entries.map writeEntry) ++ ['\x7d']) ++ rest, _⟩ = _
  rw [hentries, List.append_assoc]
  exact hread

/-! ## Fields -/

theorem reads_protocol (protocol : Protocol) :
    Reads readProtocol (Json.writeText protocol.scheme) protocol := by
  intro rest offset hrest
  obtain ⟨offset', hread⟩ := Json.reads_string "variant identifier" protocol.scheme rest
    (offset + 0) hrest
  have hknown : (Protocol.all.map Protocol.scheme).contains protocol.scheme = true := by
    cases protocol <;> decide
  have hname : Json.readName (Protocol.all.map Protocol.scheme)
      ⟨Json.writeText protocol.scheme ++ rest, offset⟩ =
        .ok (protocol.scheme, ⟨rest, offset'⟩) := by
    unfold Json.readName
    rw [Json.writeText_append] at hread ⊢
    rw [Json.skipBlank_cons rfl]
    show (Json.readString "variant identifier" _ >>= _) = _
    rw [show (⟨'"' :: _, offset⟩ : Json.Cursor) = ⟨'"' :: _, offset + 0⟩ from rfl, hread]
    show (if _ then _ else _) = _
    rw [if_pos hknown]
  refine ⟨offset', ?_⟩
  unfold readProtocol
  rw [hname]
  show Except.ok ((Protocol.ofScheme? protocol.scheme).getD .default, _) = _
  rw [Protocol.ofScheme?_scheme]
  rfl

theorem reads_text? (text : Option String) :
    Reads readText? (writeOption Json.writeText text) text :=
  Json.reads_option text (fun value _ => Json.reads_string "a string" value)
    fun _ _ => ⟨_, _, rfl, rfl, by decide⟩

/-- A number or its absence is read. -/
theorem reads_nat? {greatest : Nat} (hgreatest : greatest ≤ Json.maxNatural) (expected : String)
    {α : Type} (toNat : α → Nat) (htoNat : ∀ a, toNat a ≤ greatest) (value : Option α) :
    Reads (Json.readOption (Json.readNat greatest expected))
      (writeOption (fun a => writeNat (toNat a)) value) (value.map toNat) := by
  have hwrite : writeOption (fun a => writeNat (toNat a)) value =
      writeOption writeNat (value.map toNat) := by
    cases value <;> rfl
  rw [hwrite]
  refine Json.reads_option _ (fun n hn => ?_) fun n hn => ?_
  · obtain ⟨a, -, rfl⟩ := Option.map_eq_some_iff.1 hn
    exact Json.reads_nat (htoNat a) (Nat.le_trans (htoNat a) hgreatest) expected
  · cases heq : writeNat n with
    | nil => exact absurd heq Nat.toDigits_ne_nil
    | cons digit digits =>
        have hmem : digit ∈ writeNat n := by
          rw [heq]
          exact List.mem_cons_self ..
        have hdigit : digit.isDigit = true :=
          Nat.isDigit_of_mem_toDigits (by decide) (by decide) hmem
        refine ⟨digit, digits, rfl, Json.isBlank_of_isDigit hdigit, ?_⟩
        rintro rfl
        cases hdigit

/-- A value that is handed on in another form. -/
theorem reads_map {α β : Type} {read : Json.Reader α} {written : List Char} {value : α}
    (h : Reads read written value) (form : α → β) :
    Reads (fun c => do let (value, c) ← read c; return (form value, c)) written (form value) := by
  intro rest offset hrest
  obtain ⟨offset', hread⟩ := h rest offset hrest
  refine ⟨offset', ?_⟩
  dsimp only
  rw [hread]
  rfl

theorem map_map_cancel {α β : Type} {forth : α → β} {back : β → α} (h : ∀ a, back (forth a) = a)
    (value : Option α) : (value.map forth).map back = value := by
  cases value with
  | none => rfl
  | some a => exact congrArg some (h a)

theorem reads_port? (value : Option UInt16) :
    Reads (Json.readOption (Json.readNat (Nat.pow 2 16 - 1) "u16"))
      (writeOption (fun n => writeNat n.toNat) value) (value.map UInt16.toNat) :=
  reads_nat? (by decide) "u16" UInt16.toNat (fun n => Nat.le_sub_one_of_lt n.toNat_lt) value

theorem reads_millis? (value : Option UInt64) :
    Reads readMillis? (writeOption (fun n => writeNat n.toNat) value) value := by
  have hnat : Reads (Json.readOption (Json.readNat (Nat.pow 2 64 - 1) "u64"))
      (writeOption (fun n => writeNat n.toNat) value) (value.map UInt64.toNat) :=
    reads_nat? (by decide) "u64" UInt64.toNat (fun n => Nat.le_sub_one_of_lt n.toNat_lt) value
  have hread := reads_map hnat fun n : Option Nat => n.map UInt64.ofNat
  rwa [map_map_cancel fun n : UInt64 => n.ofNat_toNat] at hread

/-- The settings with one field taken over from others. -/
def withField (source : Settings) (field : Field) (settings : Settings) : Settings :=
  match field with
  | .protocol => { settings with protocol := source.protocol }
  | .host => { settings with host := source.host }
  | .port => { settings with port := source.port }
  | .connectionTimeout => { settings with connectionTimeout := source.connectionTimeout }
  | .completionTimeout => { settings with completionTimeout := source.completionTimeout }
  | .bindAddress => { settings with bindAddress := source.bindAddress }
  | .endpointName => { settings with endpointName := source.endpointName }
  | .username => { settings with username := source.username }
  | .password => { settings with password := source.password }
  | .saslOptions => { settings with saslOptions := source.saslOptions }

/-- Every field is read as it was written. -/
theorem reads_field (source : Settings) (field : Field) (settings : Settings) :
    Reads (readField field settings) (source.writeField field)
      (source.withField field settings) := by
  cases field with
  | protocol =>
      have hread : Reads (Json.readOption readProtocol)
          (writeOption (fun p => Json.writeText p.scheme) source.protocol) source.protocol :=
        Json.reads_option source.protocol (fun p _ => reads_protocol p)
          fun _ _ => ⟨_, _, rfl, rfl, by decide⟩
      exact reads_map hread fun value => { settings with protocol := value }
  | port =>
      have hread := reads_map (reads_port? source.port) fun n : Option Nat =>
        { settings with port := n.map UInt16.ofNat }
      rwa [map_map_cancel fun n : UInt16 => n.ofNat_toNat] at hread
  | connectionTimeout =>
      exact reads_map (reads_millis? _) fun value => { settings with connectionTimeout := value }
  | completionTimeout =>
      exact reads_map (reads_millis? _) fun value => { settings with completionTimeout := value }
  | host => exact reads_map (reads_text? _) fun value => { settings with host := value }
  | bindAddress =>
    exact reads_map (reads_text? _) fun value => { settings with bindAddress := value }
  | endpointName =>
      exact reads_map (reads_text? _) fun value => { settings with endpointName := value }
  | username => exact reads_map (reads_text? _) fun value => { settings with username := value }
  | password => exact reads_map (reads_text? _) fun value => { settings with password := value }
  | saslOptions =>
      exact reads_map (reads_options _) fun value => { settings with saslOptions := value }

/-! ## Documents -/

theorem reads_member (source settings : Settings) {field : Field} {given : List Field}
    (h : field ∉ given) :
    Reads (readMember field.name (settings, given)) (':' :: source.writeField field)
      (source.withField field settings, field :: given) := by
  intro rest offset hrest
  obtain ⟨offset', hread⟩ := reads_map (reads_field source field settings)
    (fun settings => (settings, field :: given)) rest (offset + 0 + Char.utf8Size ':') hrest
  refine ⟨offset', ?_⟩
  unfold readMember
  simp only [Field.ofName?_name, List.contains_iff_mem, h, if_false]
  exact hread

/-- Fields are read one after the other. -/
theorem members_fields (source : Settings) (fields : List Field) (settings : Settings)
    (given : List Field) (hnodup : fields.Nodup) (hnew : ∀ field ∈ fields, field ∉ given) :
    ∃ given', Members readMember (settings, given)
      (fields.map fun field => (field.name, source.writeField field))
      (fields.foldl (fun settings field => source.withField field settings) settings, given') := by
  induction fields generalizing settings given with
  | nil => exact ⟨given, .nil _⟩
  | cons field fields ih =>
      obtain ⟨hfield, hnodup⟩ := List.nodup_cons.1 hnodup
      obtain ⟨given', hrest⟩ := ih (source.withField field settings) (field :: given) hnodup
        fun other hother hmem => by
          rcases List.mem_cons.1 hmem with rfl | hmem
          · exact hfield hother
          · exact hnew other (List.mem_cons_of_mem _ hother) hmem
      exact ⟨given', .cons (reads_member source settings (hnew field (List.mem_cons_self ..)))
        hrest⟩

/-- All there is to settings is in their fields. -/
theorem withField_all (source : Settings) :
    Field.all.foldl (fun settings field => source.withField field settings) empty = source := by
  cases source
  simp only [Field.all, List.foldl_cons, List.foldl_nil, withField]

/-- A document that was written from settings is read as these settings. -/
theorem read_write (settings : Settings) : read settings.write = .ok settings := by
  obtain ⟨given, hmembers⟩ := members_fields settings Field.all empty [] (by decide) nofun
  rw [withField_all] at hmembers
  obtain ⟨offset, hread⟩ := Json.readObject_write hmembers [] (0 + 0 + Char.utf8Size '\x7b')
  have hvalue : readValue (Json.Cursor.ofText settings.write) = .ok (settings, ⟨[], offset⟩) := by
    have htext : Json.Cursor.ofText settings.write = ⟨'\x7b' ::
        ([','].intercalate ((Field.all.map fun field =>
          (field.name, settings.writeField field)).map member) ++ ['\x7d']), 0⟩ := by
      simp only [Json.Cursor.ofText, write, String.toList_ofList, List.map_map]
      rfl
    rw [htext]
    unfold readValue
    rw [Json.skipBlank_cons rfl]
    show (Json.readObject readMember (empty, []) ⟨_, 0 + 0 + Char.utf8Size '\x7b'⟩ >>= fun found =>
      Except.ok (found.1.1, found.2)) = _
    rw [hread]
    rfl
  unfold read Json.readDocument
  rw [hvalue]
  rfl

/-- Settings are read as they were written, whatever they hold; so what was read from any document
is read again from the document that is written from it. -/
theorem settings_round_trip :
    (∀ settings, read settings.write = .ok settings) ∧
      ∀ text settings, read text = .ok settings → read settings.write = read text := by
  refine ⟨read_write, fun text settings h => ?_⟩
  rw [read_write, h]

/-- A text with blanks, an escape and an unknown key comes back in the one written form. -/
theorem settings_round_trip_of_spaced_text :
    let text := "\x7b \"port\" : 80, \"x\": [1], \"host\":\"h\\u00e9\"\x7d"
    let settings := { empty with host := some "hé", port := some 80 }
    read text = .ok settings ∧ read settings.write = read text :=
  ⟨rfl, settings_round_trip.2 _ _ rfl⟩

end Settings

end Remoting
