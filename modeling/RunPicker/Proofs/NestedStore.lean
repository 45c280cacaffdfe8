import RunPicker.Config
import RunPicker.Proofs.Anchors
import RunPicker.Proofs.Loading
import RunPicker.Proofs.Operation
import RunPicker.Proofs.Sections

/-!
# Configurations as nested stores

The laws of setting and getting values of a configuration (`nested_store`). A value can be set if everything on the way
to it is a mapping. It is then what the key has, what other keys have is as before, and the file holds the
configuration; and if it cannot be set, nothing is changed.

Other keys are those that lead apart from the key that was set. Where sections stand at several places by aliases this
takes more than that neither key leads into the other (`Document.Untouched`), for the reason that
`set_changes_alias` shows.

The laws are about sound configurations, in which equal labels are on equal parts. Those that are loaded are sound
(`Config.sound_load`), and they stay so whatever is set in them (`Config.sound_sets`).
-/

namespace RunPicker

open Yaml

/-- The sections of a key. -/
def sections (key : String) : List String :=
  Text.splitAll '.' key

namespace Config

/-- The configuration has no file, or it can be written to its file. -/
def Writable (config : Config) (files : FileStore) : Prop :=
  config.path.isEmpty = true ∨ (files.canWrite config.path = true ∧ config.value.hasText = true)

end Config

namespace NestedStoreAux

open PartsAux PathsAux SectionsAux

variable {config : Config}

theorem sections_ne_nil (key : String) : sections key ≠ [] := by
  have hsplit (cs : List Char) : Text.splitChars '.' cs ≠ [] := by
    cases cs with
    | nil => exact List.cons_ne_nil _ _
    | cons c rest =>
      rw [Text.splitChars]
      split
      · exact List.cons_ne_nil _ _
      · split <;> exact List.cons_ne_nil _ _
  exact fun h => hsplit key.toList (List.map_eq_nil_iff.mp h)

/-- What is got for a key is the value of the part that stands under its sections. -/
theorem get_eq (h : config.data.Sound) {key : String} (hkey : isValidKey key = true) :
    config.get key = match config.data.within? (sections key) with
      | some part => .ok part.value
      | none => .error (.missingSection key) := by
  have hvalue : config.value.within? (sections key) = (config.data.within? (sections key)).map Document.value :=
    within?_value h (sections key)
  have hsections : sectionsOfKey key = .ok (sections key) := by
    unfold sections sectionsOfKey
    rw [if_pos hkey]
  rw [Config.get, hsections]
  simp only [bind, Except.bind, hvalue]
  cases config.data.within? (sections key) <;> rfl

theorem put_of_valid {key : String} (hkey : isValidKey key = true) (value : Value) :
    config.put key value = ((Document.putWithin (.ofValue value) (sections key) config.data).1,
      { config with data := (Document.putWithin (.ofValue value) (sections key) config.data).2 }) := by
  unfold Config.put sectionsOfKey
  rw [if_pos hkey]
  rfl

theorem put_of_invalid {key : String} (hkey : isValidKey key = false) (value : Value) :
    config.put key value = (.error (.invalidParameter "key" key ""), config) := by
  unfold Config.put sectionsOfKey
  rw [hkey]
  rfl

/-- A value can be put under sections if all that is there on the way is a mapping. -/
theorem put_ok_iff (h : config.data.Sound) (inner : Document) (names : List String) :
    (Document.putWithin inner names config.data).1 = .ok () ↔ ∀ front part, front <+: names → front ≠ names →
      config.value.within? front = some part → part.isMap = true := by
  rw [putWithin_ok_iff, failure?_eq_none_iff]
  have hvalue (front : List String) : config.value.within? front = (config.data.within? front).map Document.value :=
    within?_value h front
  have hmap {front : List String} {part : Document} (hpart : config.data.within? front = some part) :
      part.value.isMap = part.isMap := isMap_value (sound_of_mem_parts h (mem_parts_of_within? hpart))
  constructor
  · intro hall front value hfront hne hwithin
    obtain ⟨part, hpart, rfl⟩ := Option.map_eq_some_iff.mp ((hvalue front).symm.trans hwithin)
    exact (hmap hpart).trans (hall front part hfront hne hpart)
  · intro hall front part hfront hne hpart
    refine (hmap hpart).symm.trans (hall front part.value hfront hne ?_)
    rw [hvalue, hpart, Option.map_some]

/-- After a change of the data, a key has what it had if the same part stands under its sections. -/
theorem get_congr {data : Document} (h : config.data.Sound) (hdata : data.Sound) {key : String}
    (hkey : isValidKey key = true) (hsame : data.within? (sections key) = config.data.within? (sections key)) :
    { config with data }.get key = config.get key := by
  rw [get_eq h hkey, ← hsame]
  exact get_eq hdata hkey

/-- A key that could not be set leaves nothing but what `Config.put` does. -/
theorem set_of_error {key : String} {value : Value} {failure : Failure} {after : Config}
    (hput : config.put key value = (.error failure, after)) (console : Console) (files : FileStore) :
    (Config.set key value).on ⟨console, ⟨config, files⟩⟩ = (.error failure, ⟨console, ⟨after, files⟩⟩) := by
  simp [Config.set, hput]

/-- A document with a text is written to a file whose directory is there. -/
theorem write_of_writable {path : String} {data : Document} {files : FileStore} (hpath : files.canWrite path = true)
    (htext : data.value.hasText = true) (console : Console) :
    (Config.write path data).on ⟨console, files⟩ = (.ok (), ⟨console, files.write path ⟨data.print, 0⟩⟩) := by
  simp [Config.write, hpath, htext]

/-- Once a key was set, the configuration is written to its file. -/
theorem set_of_ok {key : String} {value : Value} {after : Config} (hput : config.put key value = (.ok (), after))
    {files : FileStore} (hwritable : after.Writable files) (console : Console) :
    (Config.set key value).on ⟨console, ⟨config, files⟩⟩ = (.ok (), ⟨console, ⟨after,
      if after.path.isEmpty then files else files.write after.path ⟨after.data.print, 0⟩⟩⟩) := by
  simp only [Config.set, hput, Work.on_bind, Work.on_host, Work.on_onHost, Work.on_ofExcept]
  by_cases hpath : after.path.isEmpty = true
  · simp [hpath]
  · obtain ⟨hdirectory, htext⟩ := hwritable.resolve_left hpath
    have hwritten := write_of_writable hdirectory htext console
    simp [hpath, LoadingAux.onPart_on, hwritten]

/-- What comes of setting a text that is no key. -/
theorem set_of_invalid {key : String} (hkey : isValidKey key = false) (value : Value) (console : Console)
    (files : FileStore) : (Config.set key value).on ⟨console, ⟨config, files⟩⟩ =
      (.error (.invalidParameter "key" key ""), ⟨console, ⟨config, files⟩⟩) :=
  set_of_error (put_of_invalid hkey value) console files

/-- What comes of setting a key where nothing can be put. -/
theorem set_of_stuck (h : config.data.Sound) {key : String} (hkey : isValidKey key = true) {value : Value}
    {failure : Failure} (hstuck : (Document.putWithin (.ofValue value) (sections key) config.data).1 = .error failure)
    (console : Console) (files : FileStore) :
    (Config.set key value).on ⟨console, ⟨config, files⟩⟩ = (.error failure, ⟨console, ⟨config, files⟩⟩) := by
  refine set_of_error ?_ console files
  rw [put_of_valid hkey, hstuck, Document.putWithin_of_error h hstuck]

/-- What comes of setting a key where something can be put. -/
theorem set_of_placed {key : String} (hkey : isValidKey key = true) {value : Value}
    (hplaced : (Document.putWithin (.ofValue value) (sections key) config.data).1 = .ok ()) {files : FileStore}
    (hwritable : (config.put key value).2.Writable files) (console : Console) :
    let data := (Document.putWithin (.ofValue value) (sections key) config.data).2
    (Config.set key value).on ⟨console, ⟨config, files⟩⟩ = (.ok (), ⟨console, ⟨{ config with data },
      if config.path.isEmpty then files else files.write config.path ⟨data.print, 0⟩⟩⟩) := by
  intro data
  have hput : config.put key value = (.ok (), { config with data }) := by
    rw [put_of_valid hkey, hplaced]
  rw [hput] at hwritable
  exact set_of_ok hput hwritable console

end NestedStoreAux

open NestedStoreAux PartsAux PathsAux SectionsAux

namespace Config

/-- Setting a value keeps a configuration sound, also where it fails. -/
theorem sound_put {config : Config} (h : config.data.Sound) (key : String) (value : Value) :
    (config.put key value).2.data.Sound := by
  cases hkey : isValidKey key with
  | false =>
    rw [put_of_invalid hkey]
    exact h
  | true =>
    rw [put_of_valid hkey]
    exact Document.sound_putWithin h (plain_ofValue value) (sections key)

/-- What is set in a configuration does not depend on whether its file can be written. -/
theorem config_set (key : String) (value : Value) (desk : Desk StoredConfig) :
    ((Config.set key value).on desk).2.host.config = (desk.host.config.put key value).2 := by
  rcases hput : desk.host.config.put key value with ⟨failure | _, config⟩
  · simp [Config.set, hput]
  · simp only [Config.set, hput, Work.on_bind, Work.on_host, Work.on_onHost, Work.on_ofExcept]
    split <;> rfl

/-- Every configuration that is loaded is sound. -/
theorem sound_load {path : String} {desk desk' : Desk FileStore} {config : Config}
    (h : (Config.load path).on desk = (.ok config, desk')) : config.data.Sound := by
  have hempty : Document.empty.Sound := sound_ofValue .empty
  simp only [Config.load, Work.on_bind, Work.on_host] at h
  split at h
  · obtain ⟨hconfig, -⟩ := Prod.mk.inj h
    exact Except.ok.inj hconfig ▸ hempty
  · rw [Work.on_bind] at h
    split at h
    · rename_i data after hdata
      split at h
      · obtain ⟨hconfig, -⟩ := Prod.mk.inj h
        exact Except.ok.inj hconfig ▸ sound_loadFile hdata
      · obtain ⟨hconfig, -⟩ := Prod.mk.inj h
        exact Except.ok.inj hconfig ▸ hempty
    · cases h

/-- A sound configuration stays sound, whatever is set one after the other. -/
theorem sound_sets {desk : Desk StoredConfig} (h : desk.host.config.data.Sound) (assignments : List (String × Value)) :
    (assignments.foldl (fun desk (key, value) => ((Config.set key value).on desk).2) desk).host.config.data.Sound := by
  induction assignments generalizing desk with
  | nil => exact h
  | cons assignment rest ih =>
    refine ih ?_
    rw [config_set]
    exact sound_put h assignment.1 assignment.2

end Config

/-- Setting and getting values of a configuration obeys the laws of a nested store, as long as the configuration with the
value can be written to its file.
1. A text that is no key cannot be set. A key can be set if what stands under every proper prefix of its sections is a
   mapping or missing, and only then.
2. After a key was set, it has the value, and the keys that lead apart from it have what they had: the same value, or
   none. In a configuration without aliases, these are the keys that neither lead into the key nor are led into by it.
   The file of the configuration, if it has one, holds what is set now.
3. If a key could not be set, nothing is changed.
4. The configuration keeps its path and stays sound. -/
theorem nested_store {config : Config} (h : config.data.Sound) {key : String} {value : Value} {files : FileStore}
    (hwritable : (config.put key value).2.Writable files) (console : Console) :
    let before : Desk StoredConfig := ⟨console, ⟨config, files⟩⟩
    let result := ((Config.set key value).on before).1
    let after := ((Config.set key value).on before).2
    ((isValidKey key = false → result = .error (.invalidParameter "key" key "")) ∧
      (isValidKey key = true → (result = .ok () ↔ ∀ front part, front <+: sections key → front ≠ sections key →
        config.value.within? front = some part → part.isMap = true))) ∧
    (result = .ok () →
      after.host.config.get key = .ok value ∧
      (∀ other, isValidKey other = true → config.data.Untouched (sections key) (sections other) →
        after.host.config.get other = config.get other) ∧
      (∀ other, isValidKey other = true → config.data.Unshared → Diverge (sections key) (sections other) →
        after.host.config.get other = config.get other) ∧
      (config.path.isEmpty = false →
        after.host.files.get? config.path = some ⟨after.host.config.data.print, 0⟩)) ∧
    (∀ failure, result = .error failure → after = before) ∧
    after.host.config.path = config.path ∧ after.host.config.data.Sound := by
  intro before result after
  cases hkey : isValidKey key with
  | false =>
    have hset : (Config.set key value).on before = (.error (.invalidParameter "key" key ""), before) :=
      set_of_invalid hkey value console files
    have hresult : result = .error (.invalidParameter "key" key "") := congrArg Prod.fst hset
    have hafter : after = before := congrArg Prod.snd hset
    rw [hresult, hafter]
    exact ⟨⟨fun _ => rfl, nofun⟩, nofun, fun _ _ => rfl, rfl, h⟩
  | true =>
    have hiff := put_ok_iff h (.ofValue value) (sections key)
    cases hput : (Document.putWithin (.ofValue value) (sections key) config.data).1 with
    | error failure =>
      have hset : (Config.set key value).on before = (.error failure, before) :=
        set_of_stuck h hkey hput console files
      have hresult : result = .error failure := congrArg Prod.fst hset
      have hafter : after = before := congrArg Prod.snd hset
      rw [hput] at hiff
      rw [hresult, hafter]
      exact ⟨⟨nofun, fun _ => ⟨nofun, fun hmaps => nomatch hiff.mpr hmaps⟩⟩, nofun, fun _ _ => rfl, rfl, h⟩
    | ok =>
      let data := (Document.putWithin (.ofValue value) (sections key) config.data).2
      have hdata : data.Sound := Document.sound_putWithin h (plain_ofValue value) (sections key)
      have hset := set_of_placed hkey hput hwritable console
      have hresult : result = .ok () := congrArg Prod.fst hset
      have hafter : after = ⟨console, ⟨{ config with data }, _⟩⟩ := congrArg Prod.snd hset
      have hunchanged (other : String) (hother : isValidKey other = true)
          (huntouched : config.data.Untouched (sections key) (sections other)) :
          { config with data }.get other = config.get other :=
        get_congr h hdata hother (Document.within?_of_untouched h (sections_ne_nil key) huntouched _)
      rw [hput] at hiff
      rw [hresult, hafter]
      refine ⟨⟨nofun, fun _ => iff_of_true rfl (hiff.mp rfl)⟩, fun _ => ⟨?_, hunchanged, ?_, ?_⟩, nofun, rfl, hdata⟩
      · rw [get_eq hdata hkey, Document.within?_putWithin h hput]
        exact congrArg Except.ok (value_ofValue value)
      · intro other hother hunshared hdiverge
        exact hunchanged other hother (Document.untouched_of_unshared hunshared hdiverge)
      · intro hpath
        simp only [hpath]
        exact FileStore.get?_write files config.path _

/-- A document in which one section stands under two names, as an alias makes it: `a: &x \x7bp: 1\x7d`, `b: *x`, and
`c: 7`. -/
def aliasedDocument : Document :=
  .map (some 0) [(.text "a", .map (some 1) [(.text "p", .leaf none (.integer 1))]),
    (.text "b", .map (some 1) [(.text "p", .leaf none (.integer 1))]), (.text "c", .leaf none (.integer 7))]

namespace NestedStoreAux

theorem sound_aliasedDocument : aliasedDocument.Sound where
  leaves label? value h := by
    simp only [aliasedDocument, Document.parts, Document.partsOfEntries, List.mem_append, List.mem_cons,
      List.not_mem_nil, or_false, reduceCtorEq, false_or, Document.leaf.injEq] at h
    rcases h with ⟨-, rfl⟩ | ⟨-, rfl⟩ | ⟨-, rfl⟩ <;> rfl
  labelled part hpart other hother label hlabel hlabel' := by
    have hparts {part : Document} (hpart : part ∈ aliasedDocument.parts) (hlabel : part.label? = some label) :
        label = 0 ∧ part = aliasedDocument ∨
          label = 1 ∧ part = .map (some 1) [(.text "p", .leaf none (.integer 1))] := by
      simp only [aliasedDocument, Document.parts, Document.partsOfEntries, List.mem_append, List.mem_cons,
        List.not_mem_nil, or_false] at hpart
      rcases hpart with rfl | (rfl | rfl) | (rfl | rfl) | rfl <;> simp_all [Document.label?, aliasedDocument]
    rcases hparts hpart hlabel with ⟨rfl, rfl⟩ | ⟨rfl, rfl⟩
    · exact ((hparts hother hlabel').resolve_right fun h => absurd h.1 Nat.zero_ne_one).2.symm
    · exact ((hparts hother hlabel').resolve_left fun h => absurd h.1 Nat.one_ne_zero).2.symm

theorem untouched_aliasedDocument : aliasedDocument.Untouched ["a", "p"] ["c"] where
  paths path hpath := by
    obtain ⟨front, rest, other, hsplit, hrest, rfl, hsame⟩ := hpath
    cases other with
    | nil =>
      have hends : rest = ["a", "p"] ∨ rest = ["p"] := by
        rcases front with _ | ⟨name, _ | ⟨name', front⟩⟩ <;> simp_all
      rcases hends with rfl | rfl <;> decide
    | cons name other =>
      refine diverge_cons.mpr fun hname => ?_
      obtain rfl := hname
      rcases hsame with rfl | ⟨label, -, hlabel⟩
      · exact absurd (List.cons.inj hsplit).1 (by decide)
      · cases other <;> exact nomatch hlabel
  parts part hpart front rest label hsplit hrest hlabel := by
    obtain rfl := Option.some.inj hpart
    exact List.not_mem_nil

end NestedStoreAux

/-- It is not enough that neither key leads into the other: setting `a.p` changes what `b.p` has. -/
theorem set_changes_alias :
    let config : Config := ⟨"", aliasedDocument⟩
    let outcome := (Config.set "a.p" (.integer 2)).on ⟨default, ⟨config, []⟩⟩
    config.data.Sound ∧ (config.put "a.p" (.integer 2)).2.Writable [] ∧ isValidKey "a.p" = true ∧ isValidKey "b.p" = true ∧
      Diverge (sections "a.p") (sections "b.p") ∧ outcome.1 = .ok () ∧
      config.get "b.p" = .ok (.integer 1) ∧ outcome.2.host.config.get "b.p" = .ok (.integer 2) := by
  refine ⟨sound_aliasedDocument, .inl rfl, by decide, by decide, by decide, rfl, rfl, rfl⟩

/-- Setting `a.p` in a configuration with a file in a directory and an alias, and failing to set `c.q.r`. -/
theorem nested_store_of_aliases :
    let config : Config := ⟨"conf/c.yml", aliasedDocument⟩
    let files : FileStore := [("conf/c.yml", ⟨"c: 7\n", 0⟩)]
    let before : Desk StoredConfig := ⟨default, ⟨config, files⟩⟩
    let after := ((Config.set "a.p" (.integer 2)).on before).2
    ((Config.set "a.p" (.integer 2)).on before).1 = .ok () ∧ after.host.config.get "a.p" = .ok (.integer 2) ∧
      after.host.config.get "c" = .ok (.integer 7) ∧
      after.host.files.get? "conf/c.yml" = some ⟨after.host.config.data.print, 0⟩ ∧
      (Config.set "c.q.r" .null).on before = (.error .missingAttribute, before) := by
  intro config files before after
  have hwritable : (config.put "a.p" (.integer 2)).2.Writable files := .inr (by decide +kernel)
  obtain ⟨⟨-, hiff⟩, hset, -⟩ := @nested_store config sound_aliasedDocument "a.p" (.integer 2) files hwritable default
  have hok : ((Config.set "a.p" (.integer 2)).on before).1 = .ok () := by
    have hsections : sections "a.p" = ["a", "p"] := by decide
    refine (hiff (by decide)).mpr fun front part hfront hne hpart => ?_
    rw [hsections] at hfront hne
    rcases front with _ | ⟨name, front⟩
    · exact Option.some.inj hpart ▸ rfl
    · obtain ⟨rfl, htail⟩ := List.cons_prefix_cons.mp hfront
      rcases front with _ | ⟨name, front⟩
      · exact Option.some.inj hpart ▸ rfl
      · obtain ⟨rfl, hend⟩ := List.cons_prefix_cons.mp htail
        exact absurd (by rw [List.prefix_nil.mp hend]) hne
  obtain ⟨hget, hother, -, hfile⟩ := hset hok
  refine ⟨hok, hget, ?_, hfile (by simp [config]), ?_⟩
  · exact hother "c" (by decide) untouched_aliasedDocument
  · have hstuck : ((Config.set "c.q.r" .null).on before).1 = .error .missingAttribute := rfl
    have hwritable' : (config.put "c.q.r" .null).2.Writable files := .inr (by decide +kernel)
    obtain ⟨-, -, hfail, -⟩ := @nested_store config sound_aliasedDocument "c.q.r" .null files hwritable' default
    exact Prod.ext hstuck (hfail _ hstuck)

end RunPicker
