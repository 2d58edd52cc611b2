/-!
# Protocol options

Options map keys to values. They are kept in the order of their keys, so two maps with the same
content are equal, and `get?` after `insert` is the law that tells what a map holds.
-/

namespace Remoting

/-- Protocol options: entries in strictly increasing order of their keys. -/
structure Options where
  entries : List (String × String)
  sorted : entries.Pairwise fun a b => a.1 < b.1
  deriving DecidableEq

namespace Options

/-- No options. -/
def empty : Options := ⟨[], .nil⟩

instance : Inhabited Options := ⟨empty⟩

/-- Puts an entry at its place in a sorted list, replacing an entry of the same key. -/
def place (key value : String) : List (String × String) → List (String × String)
  | [] => [(key, value)]
  | entry :: rest =>
    if key < entry.1 then (key, value) :: entry :: rest
    else if entry.1 < key then entry :: place key value rest
    else (key, value) :: rest

/-- Placing an entry adds no key but its own. -/
theorem mem_place {key value : String} {entries : List (String × String)}
    {entry : String × String} (h : entry ∈ place key value entries) :
    entry = (key, value) ∨ entry ∈ entries := by
  induction entries with
  | nil => simpa [place] using h
  | cons first rest ih =>
    simp only [place] at h
    split at h
    · simpa using h
    · split at h
      · rcases List.mem_cons.1 h with h | h
        · exact .inr (List.mem_cons.2 (.inl h))
        · exact (ih h).imp_right fun h => List.mem_cons_of_mem _ h
      · exact (List.mem_cons.1 h).imp_right fun h => List.mem_cons_of_mem _ h

/-- Placing an entry keeps the order. -/
theorem sorted_place (key value : String) {entries : List (String × String)}
    (h : entries.Pairwise fun a b => a.1 < b.1) :
    (place key value entries).Pairwise fun a b => a.1 < b.1 := by
  induction entries with
  | nil => simp [place]
  | cons first rest ih =>
    obtain ⟨hfirst, hrest⟩ := List.pairwise_cons.1 h
    simp only [place]
    split
    · rename_i hlt
      refine List.pairwise_cons.2 ⟨fun entry hentry => ?_, h⟩
      rcases List.mem_cons.1 hentry with rfl | hentry
      · exact hlt
      · exact String.lt_trans hlt (hfirst entry hentry)
    · rename_i hnlt
      split
      · rename_i hgt
        refine List.pairwise_cons.2 ⟨fun entry hentry => ?_, ih hrest⟩
        rcases mem_place hentry with rfl | hentry
        · exact hgt
        · exact hfirst entry hentry
      · rename_i hngt
        have heq : key = first.1 :=
          String.le_antisymm (String.not_lt.1 hngt) (String.not_lt.1 hnlt)
        exact List.pairwise_cons.2 ⟨fun entry hentry => heq ▸ hfirst entry hentry, hrest⟩

/-- The options with one value set. -/
def insert (options : Options) (key value : String) : Options :=
  ⟨place key value options.entries, sorted_place key value options.sorted⟩

/-- The value of a key. -/
def get? (options : Options) (key : String) : Option String :=
  options.entries.lookup key

theorem lookup_place_self (key value : String) (entries : List (String × String)) :
    (place key value entries).lookup key = some value := by
  induction entries with
  | nil => simp [place]
  | cons first rest ih =>
      simp only [place]
      split
      · simp
      · split
        next hlt =>
          have hne : (key == first.1) = false := beq_eq_false_iff_ne.2 (String.ne_of_lt hlt).symm
          rw [List.lookup_cons, hne]
          exact ih
        next => simp

theorem lookup_place_of_ne {key other : String} (hne : key ≠ other) (value : String)
    (entries : List (String × String)) :
    (place key value entries).lookup other = entries.lookup other := by
  have hskip : (other == key) = false := beq_eq_false_iff_ne.2 hne.symm
  induction entries with
  | nil => simp [place, List.lookup_cons, hskip]
  | cons first rest ih =>
      simp only [place]
      split
      · simp [List.lookup_cons, hskip]
      · split
        next => rw [List.lookup_cons, List.lookup_cons, ih]
        next hge hle =>
          obtain rfl : key = first.1 :=
            String.le_antisymm (String.not_lt.1 hle) (String.not_lt.1 hge)
          rw [List.lookup_cons, List.lookup_cons, hskip]

/-- An insertion changes the value of its key and no other one. -/
@[simp] theorem get?_insert (options : Options) (key value other : String) :
    (options.insert key value).get? other =
      if key = other then some value else options.get? other := by
  by_cases h : key = other
  · rw [if_pos h, ← h]
    exact lookup_place_self key value options.entries
  · rw [if_neg h]
    exact lookup_place_of_ne h value options.entries

theorem lookup_eq_none {key : String} {entries : List (String × String)}
    (h : ∀ entry ∈ entries, key < entry.1) : entries.lookup key = none := by
  induction entries with
  | nil => rfl
  | cons first rest ih =>
      obtain ⟨hfirst, hrest⟩ := List.forall_mem_cons.1 h
      rw [List.lookup_cons, beq_eq_false_iff_ne.2 (String.ne_of_lt hfirst)]
      exact ih hrest

theorem lookup_cons_self (first : String × String) (rest : List (String × String)) :
    (first :: rest).lookup first.1 = some first.2 := by
  rw [List.lookup_cons, beq_self_eq_true]

theorem key_le_of_lookup {key value : String} {first : String × String}
    {rest : List (String × String)} (h : (first :: rest).Pairwise fun a b => a.1 < b.1)
    (hlookup : (first :: rest).lookup key = some value) : first.1 ≤ key := by
  refine String.not_lt.1 fun hlt => ?_
  have hnone : (first :: rest).lookup key = none := lookup_eq_none fun entry hentry => by
    rcases List.mem_cons.1 hentry with rfl | hentry
    · exact hlt
    · exact String.lt_trans hlt ((List.pairwise_cons.1 h).1 entry hentry)
  cases hnone.symm.trans hlookup

theorem entries_eq_of_lookup {entries entries' : List (String × String)}
    (h : entries.Pairwise fun a b => a.1 < b.1) (h' : entries'.Pairwise fun a b => a.1 < b.1)
    (hlookup : ∀ key, entries.lookup key = entries'.lookup key) : entries = entries' := by
  induction entries generalizing entries' with
  | nil =>
      cases entries' with
      | nil => rfl
      | cons first rest =>
          have hself := lookup_cons_self first rest
          cases (hlookup first.1).trans hself
  | cons first rest ih =>
      cases entries' with
      | nil =>
          have hself := lookup_cons_self first rest
          cases (hlookup first.1).symm.trans hself
      | cons first' rest' =>
          have hself := lookup_cons_self first rest
          have hself' := lookup_cons_self first' rest'
          -- each of the two first keys is in the other list, so neither is below the other
          have hkey : first.1 = first'.1 := String.le_antisymm
            (key_le_of_lookup h ((hlookup _).trans hself'))
            (key_le_of_lookup h' ((hlookup _).symm.trans hself))
          have hvalue : first.2 = first'.2 := by
            have hboth := (hlookup first.1).symm.trans hself
            rw [hkey, hself'] at hboth
            exact (Option.some.inj hboth).symm
          obtain ⟨hfirst, hrest⟩ := List.pairwise_cons.1 h
          obtain ⟨hfirst', hrest'⟩ := List.pairwise_cons.1 h'
          have htail : rest = rest' := by
            refine ih hrest hrest' fun key => ?_
            by_cases hsame : key = first.1
            · rw [lookup_eq_none (hsame ▸ hfirst), lookup_eq_none (hsame ▸ hkey ▸ hfirst')]
            · have hboth := hlookup key
              rwa [List.lookup_cons, List.lookup_cons, ← hkey, beq_eq_false_iff_ne.2 hsame] at hboth
          rw [htail, Prod.ext hkey hvalue]

/-- Options that give every key the same value are equal. -/
theorem eq_of_get? {options options' : Options} (h : ∀ key, options.get? key = options'.get? key) :
    options = options' := by
  obtain ⟨entries, hsorted⟩ := options
  obtain ⟨entries', hsorted'⟩ := options'
  obtain rfl := entries_eq_of_lookup hsorted hsorted' h
  rfl

end Options

end Remoting
