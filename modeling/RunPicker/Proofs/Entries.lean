import Mathlib.Data.List.Induction
import RunPicker.Value

/-!
# Looking up entries

What stands under a key that is a text, after an entry was set: the new value under its own key, and what stood there
before under every other (`named?_insert`). Entries that were gathered from pairs set the same as the pairs themselves,
one after the other (`insertAll_ofPairs`).
-/

namespace RunPicker

/-- Pairs of names and values, with the names as keys. -/
def Entries.underNames {α : Type} (pairs : List (String × α)) : Entries α :=
  pairs.map fun pair => (.text pair.1, pair.2)

namespace EntriesAux

open Entries (underNames)

variable {α : Type} {name : String} {key : Value}

/-- A text is equal to itself alone. -/
theorem equal_iff_text : Value.equal key (.text name) = true ↔ key = .text name := by
  cases key <;> simp [Value.equal, Value.sameNumber, Value.compareNumbers?, Value.integer?]

/-- A text is equal to itself alone. -/
theorem equal_text_iff : Value.equal (.text name) key = true ↔ key = .text name := by
  cases key with
  | text other =>
    simp only [Value.equal, beq_iff_eq, Value.text.injEq]
    exact eq_comm
  | _ => simp [Value.equal, Value.sameNumber, Value.compareNumbers?, Value.integer?]

/-- What has a name is the first entry with it. -/
theorem named?_cons (entry : Value × α) (entries : Entries α) (name : String) :
    Entries.named? (entry :: entries) name =
      if Value.equal (.text name) entry.1 then some entry.2 else Entries.named? entries name := by
  simp only [Entries.named?, Entries.find?, List.find?_cons]
  cases Value.equal (.text name) entry.1 <;> rfl

/-- What stands under a name after an entry was set. -/
theorem named?_insert (entries : Entries α) (key : Value) (value : α) (name : String) :
    Entries.named? (Entries.insert entries key value) name =
      if Value.equal (.text name) key then some value else Entries.named? entries name := by
  induction entries with
  | nil => exact named?_cons (key, value) [] name
  | cons entry rest ih =>
    rw [Entries.insert, named?_cons entry]
    by_cases hkey : Value.equal key entry.1 = true
    · -- the entry has the name exactly if the key has it
      have hsame : Value.equal (.text name) entry.1 = Value.equal (.text name) key := by
        rw [Bool.eq_iff_iff, equal_text_iff, equal_text_iff]
        constructor
        · intro hname
          rwa [hname, equal_iff_text] at hkey
        · intro hname
          rwa [hname, equal_text_iff] at hkey
      rw [if_pos hkey, named?_cons, hsame]
      split <;> rfl
    · rw [if_neg hkey, named?_cons, ih]
      by_cases hname : Value.equal (.text name) entry.1 = true
      · have hother : ¬ Value.equal (.text name) key = true := by
          intro h
          rw [equal_text_iff.mp h] at hkey
          exact hkey hname
        rw [if_pos hname, if_neg hother, if_pos hname]
      · rw [if_neg hname, if_neg hname]

/-- What was put under a name is found under it. -/
@[simp] theorem named?_insert_self (entries : Entries α) (name : String) (value : α) :
    Entries.named? (Entries.insert entries (.text name) value) name = some value := by
  rw [named?_insert, if_pos (equal_text_iff.mpr rfl)]

/-- What is put under one name does not change what another has. -/
theorem named?_insert_of_ne (entries : Entries α) {name other : String} (h : name ≠ other) (value : α) :
    Entries.named? (Entries.insert entries (.text name) value) other = Entries.named? entries other := by
  rw [named?_insert, if_neg]
  rw [equal_text_iff, Value.text.injEq]
  exact h

/-- What is found under a name is an entry. -/
theorem mem_of_named? {entries : Entries α} {value : α} (h : Entries.named? entries name = some value) :
    (.text name, value) ∈ entries := by
  obtain ⟨⟨key, value⟩, hentry, rfl⟩ := Option.map_eq_some_iff.mp h
  have hkey := List.find?_some (p := fun entry : Value × α => Value.equal (.text name) entry.1) hentry
  obtain rfl := equal_text_iff.mp hkey
  exact List.mem_of_find?_eq_some hentry

/-- With an entry put in there are entries. -/
theorem insert_ne_nil (entries : Entries α) (key : Value) (value : α) : Entries.insert entries key value ≠ [] := by
  cases entries with
  | nil => exact List.cons_ne_nil _ _
  | cons entry rest =>
    rw [Entries.insert]
    split <;> exact List.cons_ne_nil _ _

/-- After a value is put in, the values are this one and some of those before. -/
theorem mem_insert {entries : Entries α} {value : α} {entry : Value × α}
    (h : entry ∈ Entries.insert entries key value) : entry.2 = value ∨ entry ∈ entries := by
  induction entries with
  | nil => exact .inl (List.mem_singleton.mp h ▸ rfl)
  | cons first rest ih =>
    rw [Entries.insert] at h
    split at h
    · rcases List.mem_cons.mp h with rfl | h
      · exact .inl rfl
      · exact .inr (List.mem_cons_of_mem _ h)
    · rcases List.mem_cons.mp h with rfl | h
      · exact .inr List.mem_cons_self
      · exact (ih h).imp_right (List.mem_cons_of_mem _)

/-- Setting an entry to what it is changes nothing. -/
theorem insert_of_named? {entries : Entries α} {value : α} (h : Entries.named? entries name = some value) :
    Entries.insert entries (.text name) value = entries := by
  induction entries with
  | nil => exact nomatch h
  | cons entry rest ih =>
    rw [named?_cons] at h
    rw [Entries.insert]
    split at h
    · rename_i hname
      rw [if_pos hname, ← Option.some.inj h]
    · rename_i hname
      rw [if_neg hname, ih h]

/-- Of two entries that are set under one name the second counts. -/
theorem insert_insert_self (entries : Entries α) (name : String) (old new : α) :
    Entries.insert (Entries.insert entries (.text name) old) (.text name) new =
      Entries.insert entries (.text name) new := by
  have hself : Value.equal (.text name) (.text name) = true := equal_text_iff.mpr rfl
  induction entries with
  | nil => simp [Entries.insert, hself]
  | cons entry rest ih =>
    by_cases hkey : Value.equal (.text name) entry.1 = true
    · simp [Entries.insert, hkey]
    · simp [Entries.insert, hkey, ih]

/-- Entries under two names can be set in either order, if one of them is there already. -/
theorem insert_insert_comm {entries : Entries α} {name other : String} (hne : name ≠ other)
    (hname : (Entries.named? entries name).isSome = true) (value value' : α) :
    Entries.insert (Entries.insert entries (.text name) value) (.text other) value' =
      Entries.insert (Entries.insert entries (.text other) value') (.text name) value := by
  induction entries with
  | nil => cases hname
  | cons entry rest ih =>
    by_cases hkey : Value.equal (.text name) entry.1 = true
    · have hother : ¬ Value.equal (.text other) entry.1 = true := by
        rw [equal_text_iff.mp hkey, equal_text_iff, Value.text.injEq]
        exact hne
      simp [Entries.insert, hkey, hother]
    · rw [named?_cons, if_neg hkey] at hname
      by_cases hother : Value.equal (.text other) entry.1 = true
      · simp [Entries.insert, hkey, hother]
      · simp [Entries.insert, hkey, hother, ih hname]

section

variable {β : Type} (f : α → β) (entries : Entries α)

/-- The entries with a function applied to what stands under the keys. -/
theorem named?_map : Entries.named? (entries.map fun entry => (entry.1, f entry.2)) name =
    (Entries.named? entries name).map f := by
  induction entries with
  | nil => rfl
  | cons entry rest ih =>
    rw [List.map_cons, named?_cons, named?_cons, ih]
    split <;> rfl

/-- Mapping the values commutes with putting one in. -/
theorem insert_map (value : α) : (Entries.insert entries key value).map (fun entry => (entry.1, f entry.2)) =
    Entries.insert (entries.map fun entry => (entry.1, f entry.2)) key (f value) := by
  induction entries with
  | nil => rfl
  | cons entry rest ih =>
    rw [Entries.insert, List.map_cons, Entries.insert]
    split
    · rfl
    · rw [List.map_cons, ih]

end

/-! ## Entries under names -/

/-- All keys are texts, and no two of them are the same. -/
structure DistinctNames (entries : Entries α) : Prop where
  named : ∀ entry ∈ entries, ∃ name, entry.1 = .text name
  distinct : (entries.map Prod.fst).Nodup

/-- Entries are put in one after the other. -/
theorem insertAll_append (entries : Entries α) (front back : List (Value × α)) :
    Entries.insertAll entries (front ++ back) = Entries.insertAll (Entries.insertAll entries front) back :=
  List.foldl_append

/-- Entries that are gathered from some pairs are some. -/
theorem ofPairs_eq_nil_iff {pairs : List (Value × α)} : Entries.ofPairs pairs = [] ↔ pairs = [] := by
  constructor
  · intro h
    rcases List.eq_nil_or_concat pairs with hnil | ⟨front, pair, rfl⟩
    · exact hnil
    · rw [List.concat_eq_append, Entries.ofPairs, insertAll_append] at h
      exact absurd h (insert_ne_nil _ _ _)
  · rintro rfl
    rfl

/-- Of pairs that are set one after the other, the last under a name counts. -/
theorem named?_ofPairs (pairs : List (Value × α)) (name : String) : Entries.named? (Entries.ofPairs pairs) name =
    (pairs.filter fun pair => Value.equal (.text name) pair.1).getLast?.map Prod.snd := by
  induction pairs using List.reverseRecOn with
  | nil => rfl
  | append_singleton pairs pair ih =>
    have hlast : Entries.ofPairs (pairs ++ [pair]) = Entries.insert (Entries.ofPairs pairs) pair.1 pair.2 :=
      insertAll_append ..
    rw [hlast, named?_insert, ih, List.filter_append, List.filter_cons, List.filter_nil]
    cases Value.equal (.text name) pair.1 <;> simp

/-- The last of some pairs is put into the entries of those before. -/
theorem ofPairs_underNames_append (pairs : List (String × α)) (pair : String × α) :
    Entries.ofPairs (underNames (pairs ++ [pair])) =
      Entries.insert (Entries.ofPairs (underNames pairs)) (.text pair.1) pair.2 := by
  rw [underNames, List.map_append, Entries.ofPairs, insertAll_append]
  rfl

/-- Putting a value in adds at most its key. -/
theorem mem_keys_insert {entries : Entries α} {value : α} {key : Value}
    (h : key ∈ (Entries.insert entries (.text name) value).map Prod.fst) :
    key = .text name ∨ key ∈ entries.map Prod.fst := by
  induction entries with
  | nil => exact Or.inl (List.mem_singleton.mp h)
  | cons entry rest ih =>
    rw [Entries.insert] at h
    split at h
    · exact Or.inr h
    · rcases List.mem_cons.mp h with rfl | h
      · exact Or.inr List.mem_cons_self
      · exact (ih h).imp_right (List.mem_cons_of_mem _)

/-- Putting a value in keeps the names distinct. -/
theorem distinctNames_insert {entries : Entries α} (h : DistinctNames entries) (name : String) (value : α) :
    DistinctNames (Entries.insert entries (.text name) value) := by
  induction entries with
  | nil =>
    refine ⟨fun entry hentry => ⟨name, by rw [List.mem_singleton.mp hentry]⟩, ?_⟩
    exact List.nodup_cons.mpr ⟨List.not_mem_nil, List.nodup_nil⟩
  | cons entry rest ih =>
    obtain ⟨hentry, hrest⟩ := List.forall_mem_cons.mp h.named
    have hnodup := List.nodup_cons.mp h.distinct
    rw [Entries.insert]
    split
    · exact ⟨List.forall_mem_cons.mpr ⟨hentry, hrest⟩, h.distinct⟩
    · rename_i hkey
      have hrest' := ih ⟨hrest, hnodup.2⟩
      refine ⟨List.forall_mem_cons.mpr ⟨hentry, hrest'.named⟩, List.nodup_cons.mpr ⟨fun hmem => ?_, hrest'.distinct⟩⟩
      rcases mem_keys_insert hmem with hname | hmem
      · exact hkey (equal_text_iff.mpr hname)
      · exact hnodup.1 hmem

/-- Entries that are put in one after the other have distinct names. -/
theorem distinctNames_ofPairs (pairs : List (String × α)) : DistinctNames (Entries.ofPairs (underNames pairs)) := by
  induction pairs using List.reverseRecOn with
  | nil => exact ⟨nofun, List.nodup_nil⟩
  | append_singleton pairs pair ih =>
    rw [ofPairs_underNames_append]
    exact distinctNames_insert ih ..

/-- An entry that is there can be set before others or after them, if none of them has its name. -/
theorem insertAll_insert_of_not_mem {entries others : Entries α} {name : String}
    (hnamed : ∀ entry ∈ others, ∃ other, entry.1 = .text other) (hother : .text name ∉ others.map Prod.fst)
    (hname : (Entries.named? entries name).isSome = true) (value : α) :
    Entries.insertAll (Entries.insert entries (.text name) value) others =
      Entries.insert (Entries.insertAll entries others) (.text name) value := by
  induction others generalizing entries with
  | nil => rfl
  | cons entry others ih =>
    obtain ⟨⟨other, hentry⟩, hnamed⟩ := List.forall_mem_cons.mp hnamed
    obtain ⟨hne, hother⟩ := not_or.mp (mt List.mem_cons.mpr hother)
    have hne : name ≠ other := fun h => hne (by rw [h, hentry])
    have hstill : (Entries.named? (Entries.insert entries (.text other) entry.2) name).isSome = true := by
      rwa [named?_insert_of_ne entries hne.symm]
    have hcomm := insert_insert_comm hne hname value entry.2
    rw [← hentry] at hcomm hstill
    exact (congrArg (Entries.insertAll · others) hcomm).trans (ih hnamed hother hstill)

/-- Setting an entry among others is setting it after them. -/
theorem insertAll_insert {others : Entries α} (h : DistinctNames others) (entries : Entries α) (name : String)
    (value : α) :
    Entries.insertAll entries (Entries.insert others (.text name) value) =
      Entries.insert (Entries.insertAll entries others) (.text name) value := by
  induction others generalizing entries with
  | nil => rfl
  | cons entry others ih =>
    obtain ⟨⟨other, hentry⟩, hnamed⟩ := List.forall_mem_cons.mp h.named
    have hnodup := List.nodup_cons.mp h.distinct
    rw [Entries.insert]
    split
    · rename_i hkey
      have hkey : entry.1 = .text name := equal_text_iff.mp hkey
      have hthere : (Entries.named? (Entries.insert entries (.text name) entry.2) name).isSome = true := by
        rw [named?_insert_self]
        rfl
      have hlast := insertAll_insert_of_not_mem hnamed (hkey ▸ hnodup.1) hthere value
      rw [insert_insert_self] at hlast
      rw [← hkey] at hlast ⊢
      exact hlast
    · exact ih ⟨hnamed, hnodup.2⟩ _

/-- Entries that were gathered from pairs set the same as the pairs. -/
theorem insertAll_ofPairs (entries : Entries α) (pairs : List (String × α)) :
    Entries.insertAll entries (Entries.ofPairs (underNames pairs)) = Entries.insertAll entries (underNames pairs) := by
  induction pairs using List.reverseRecOn with
  | nil => rfl
  | append_singleton pairs pair ih =>
    rw [ofPairs_underNames_append, insertAll_insert (distinctNames_ofPairs pairs), ih, underNames, underNames,
      List.map_append, insertAll_append]
    rfl

/-- Of pairs that hold a name something is gathered under it. -/
theorem isSome_named?_ofPairs {pairs : List (String × α)} {name : String} (h : ∃ pair ∈ pairs, pair.1 = name) :
    (Entries.named? (Entries.ofPairs (underNames pairs)) name).isSome = true := by
  induction pairs using List.reverseRecOn with
  | nil => exact absurd h (by simp)
  | append_singleton pairs pair ih =>
    rw [ofPairs_underNames_append, named?_insert]
    split
    · rfl
    · rename_i hkey
      obtain ⟨other, hmem, rfl⟩ := h
      rcases List.mem_append.mp hmem with hmem | hmem
      · exact ih ⟨other, hmem, rfl⟩
      · exact absurd (equal_text_iff.mpr (by rw [List.mem_singleton.mp hmem])) hkey

/-- What is gathered when every pair of a name gets one value: the same as before, and then the value is set. -/
theorem ofPairs_replaced {pairs : List (String × α)} {name : String} (h : ∃ pair ∈ pairs, pair.1 = name) (value : α) :
    Entries.ofPairs (underNames (pairs.map fun pair => if pair.1 = name then (pair.1, value) else pair)) =
      Entries.insert (Entries.ofPairs (underNames pairs)) (.text name) value := by
  induction pairs using List.reverseRecOn with
  | nil => exact absurd h (by simp)
  | append_singleton pairs pair ih =>
    rw [List.map_append, List.map_singleton, ofPairs_underNames_append, ofPairs_underNames_append]
    by_cases hearlier : ∃ other ∈ pairs, other.1 = name
    · rw [ih hearlier]
      by_cases hpair : pair.1 = name
      · rw [if_pos hpair, hpair, insert_insert_self, insert_insert_self]
      · rw [if_neg hpair, insert_insert_comm (Ne.symm hpair) (isSome_named?_ofPairs hearlier)]
    · have hsame : (pairs.map fun pair => if pair.1 = name then (pair.1, value) else pair) = pairs := by
        refine (List.map_congr_left fun other hother => ?_).trans (List.map_id _)
        exact if_neg fun hname => hearlier ⟨other, hother, hname⟩
      obtain ⟨other, hmem, hname⟩ := h
      have hpair : pair.1 = name := by
        rcases List.mem_append.mp hmem with hmem | hmem
        · exact absurd ⟨other, hmem, hname⟩ hearlier
        · rw [← List.mem_singleton.mp hmem, hname]
      rw [hsame, if_pos hpair, hpair, insert_insert_self]

end EntriesAux

end RunPicker
