import Mathlib
import Vernacular.Dialect.Registry
import Vernacular.Proofs.Validation
/-!
# Registrations

A registry changes only by `Registry.register`, which keeps three tables in
step: the names in registration order, the dialects by name, and the
extensions by the name of the dialect they select. Every registry reached by
registrations is `Coherent`: its names are the keys of its dialect table, each
once; a dialect is registered under its own name; and an extension selects a
registered dialect that has it.

Main statement: over any sequence of registrations on top of the standard
registry, the names are the accepted documents' names in the order they were
first registered, `get` answers a registered dialect, an extension selects the
dialect registered under its name, and a refused document changes nothing.
That every listed extension selects a dialect holds only while no
registration gives a dialect an extension that a dialect of another name
already has: when two dialects share an extension and the one it selects is
registered again with another, the extension is dropped although the first
dialect still lists it.
-/

set_option autoImplicit false

namespace Vernacular

/-! ## Validation reads only the tables -/

namespace DialectSpec

theorem checkRoles_congr {s t : DialectSpec} (same : s.spellingOf = t.spellingOf) :
    s.checkRoles = t.checkRoles := by
  funext roles seen
  induction roles generalizing seen with
  | nil => rfl
  | cons role rest ih => simp only [checkRoles, same, ih]

theorem checkTables_congr {s t : DialectSpec} (same : s.table = t.table) :
    s.checkTables = t.checkTables := by
  have spellings : s.spellingOf = t.spellingOf := by funext role; simp [spellingOf, same]
  have unknown : s.unknownKey = t.unknownKey := by funext table; simp [unknownKey, same]
  funext tables seen
  induction tables generalizing seen with
  | nil => rfl
  | cons table rest ih => simp only [checkTables, checkRoles_congr spellings, unknown, ih]

/-- A document under another name and extension validates as the original does. -/
theorem validate_rename (spec : DialectSpec) (name extension : String) {d : Dialect}
    (valid : spec.validate = .ok d) :
    ({ spec with name, extension } : DialectSpec).validate = .ok { d with name, extension } := by
  obtain ⟨tables, keywords, rfl⟩ := validate_eq_ok_iff.mp valid
  refine validate_eq_ok_iff.mpr ⟨?_, keywords, rfl⟩
  have same : ({ spec with name, extension } : DialectSpec).checkTables = spec.checkTables :=
    checkTables_congr rfl
  rw [same]
  exact tables

end DialectSpec

namespace Registry

/-! ## Entry tables -/

section Entries

variable {α : Type} (entries : List (String × α)) (key k : String) (value : α)

theorem lookup_cons_of_ne {a : String} {b : α} (ne : k ≠ a) :
    ((a, b) :: entries).lookup k = entries.lookup k := by
  simp [List.lookup, beq_false_of_ne ne]

theorem lookup_map_setEntry :
    (entries.map fun e => if e.1 = key then (key, value) else e).lookup k =
      if k = key then (if key ∈ entries.map Prod.fst then some value else none)
      else entries.lookup k := by
  induction entries with
  | nil => split <;> rfl
  | cons e rest ih =>
    obtain ⟨a, b⟩ := e
    by_cases same : a = key
    · subst same
      by_cases hk : k = a
      · subst hk; simp
      · simp only [List.map_cons, if_true, lookup_cons_of_ne _ _ hk, ih, if_neg hk]
    · simp only [List.map_cons, same, if_false]
      by_cases ha : k = a
      · subst ha
        simp [same]
      · rw [lookup_cons_of_ne _ _ ha, lookup_cons_of_ne _ _ ha, ih]
        have other : key ∈ a :: rest.map Prod.fst ↔ key ∈ rest.map Prod.fst := by
          simp [Ne.symm same]
        simp only [other]

theorem lookup_setEntry :
    (setEntry entries key value).lookup k = if k = key then some value else entries.lookup k := by
  unfold setEntry
  simp only [beq_iff_eq]
  split
  · next present =>
    have mem : key ∈ entries.map Prod.fst := by simpa [List.any_eq_true] using present
    simp only [lookup_map_setEntry, mem, if_true]
  · next absent =>
    have fresh : entries.lookup key = none := by
      simp only [List.any_eq_true, beq_iff_eq, not_exists, not_and] at absent
      refine List.lookup_eq_none_iff.mpr fun p mem => ?_
      exact bne_iff_ne.mpr fun same => absent p mem same.symm
    by_cases hk : k = key
    · subst hk; simp [List.lookup_append, fresh]
    · simp [List.lookup_append, hk, lookup_cons_of_ne _ _ hk]

theorem keys_setEntry :
    (setEntry entries key value).map Prod.fst =
      if key ∈ entries.map Prod.fst then entries.map Prod.fst
      else entries.map Prod.fst ++ [key] := by
  unfold setEntry
  split
  · next present =>
    have mem : key ∈ entries.map Prod.fst := by simpa [List.any_eq_true] using present
    simp only [mem, if_true, List.map_map]
    congr 1
    funext e
    by_cases same : e.1 = key <;> simp [same]
  · next absent =>
    have mem : key ∉ entries.map Prod.fst := by simpa [List.any_eq_true] using absent
    simp [mem]

theorem lookup_filter_key :
    (entries.filter (·.1 != key)).lookup k = if k = key then none else entries.lookup k := by
  induction entries with
  | nil => split <;> rfl
  | cons e rest ih =>
    obtain ⟨a, b⟩ := e
    by_cases same : a = key
    · subst same
      by_cases hk : k = a
      · simpa [hk] using ih
      · simpa [hk, lookup_cons_of_ne _ _ hk] using ih
    · by_cases ha : k = a
      · subst ha
        simp [same]
      · simp [same, lookup_cons_of_ne _ _ ha, ih]

end Entries

/-! ## One registration -/

section Insert

variable (r : Registry) (d : Dialect)

@[simp] theorem lookup_insert (n : String) :
    (r.insert d).lookup n = if n = d.name then some d else r.lookup n := by
  simp [insert, lookup, lookup_setEntry]

theorem names_insert :
    (r.insert d).names = if (r.lookup d.name).isSome then r.names else r.names ++ [d.name] := rfl

theorem keys_insert :
    (r.insert d).dialects.map Prod.fst =
      if d.name ∈ r.dialects.map Prod.fst then r.dialects.map Prod.fst
      else r.dialects.map Prod.fst ++ [d.name] :=
  keys_setEntry r.dialects d.name d

/-- The extension table after a registration: the new dialect's extension
selects it; the previous dialect's extension is dropped if it still selected
that dialect; every other entry stays. -/
theorem lookup_extensions_insert (e : String) :
    (r.insert d).extensions.lookup e =
      if d.extension ≠ "" ∧ e = normalizeExtension d.extension then some d.name
      else if ∃ prev, r.lookup d.name = some prev ∧ prev.extension ≠ "" ∧
          e = normalizeExtension prev.extension ∧ r.extensions.lookup e = some prev.name then none
      else r.extensions.lookup e := by
  have added : ∀ table : List (String × String),
      (if d.extension.isEmpty then table
        else setEntry table (normalizeExtension d.extension) d.name).lookup e =
      if d.extension ≠ "" ∧ e = normalizeExtension d.extension then some d.name
      else table.lookup e := by
    intro table
    by_cases empty : d.extension = ""
    · simp [empty]
    · by_cases here : e = normalizeExtension d.extension <;> simp [empty, here, lookup_setEntry]
  unfold insert
  dsimp only
  rw [added]
  by_cases fresh : d.extension ≠ "" ∧ e = normalizeExtension d.extension
  · rw [if_pos fresh, if_pos fresh]
  rw [if_neg fresh, if_neg fresh]
  cases previous : r.lookup d.name with
  | none => simp
  | some prev =>
    simp only [Option.some.injEq, exists_eq_left']
    by_cases drops : prev.extension ≠ "" ∧
        r.extensions.lookup (normalizeExtension prev.extension) = some prev.name
    · have dropped : (!prev.extension.isEmpty &&
          r.extensions.lookup (normalizeExtension prev.extension) == some prev.name) = true := by
        simp [drops.1, drops.2]
      rw [if_pos dropped, lookup_filter_key]
      by_cases at_ : e = normalizeExtension prev.extension
      · subst at_; simp [drops.1, drops.2]
      · simp [at_]
    · have kept : (!prev.extension.isEmpty &&
          r.extensions.lookup (normalizeExtension prev.extension) == some prev.name) = false := by
        simpa using drops
      rw [if_neg (by simp [kept]), if_neg]
      rintro ⟨nonempty, rfl, selects⟩
      exact drops ⟨nonempty, selects⟩

end Insert

end Registry

/-- Whether registration accepts a document: it has a name and validates. -/
def DialectSpec.accepted (spec : DialectSpec) : Bool := !spec.name.isEmpty && spec.validate.toBool

namespace Registry

/-! ## Registering documents -/

section Register

variable (r : Registry) {spec : DialectSpec}

/-- A registration that succeeds adds the dialect the document spells. -/
theorem register_eq_ok_iff {r' : Registry} :
    r.register spec = .ok r' ↔ spec.accepted ∧ r' = r.insert spec.spelled := by
  unfold register DialectSpec.accepted
  by_cases unnamed : spec.name = ""
  · simp [unnamed]
  · have named : spec.name.isEmpty = false := by simpa using unnamed
    simp only [named, Bool.false_eq_true, if_false, Bool.not_false, Bool.true_and]
    cases valid : spec.validate with
    | error refusal => simp [Except.toBool]
    | ok d =>
      have spelled : d = spec.spelled := (DialectSpec.validate_eq_ok_iff.mp valid).2.2
      subst spelled
      simp [Except.toBool, eq_comm]

/-- Registration refuses exactly the documents with no name or that fail
validation, and says why. -/
theorem register_eq_error_iff :
    (∃ refusal, r.register spec = .error refusal) ↔
      spec.name = "" ∨ ∃ refusal, spec.validate = .error refusal := by
  unfold register
  by_cases unnamed : spec.name = ""
  · simp [unnamed]
  · have named : spec.name.isEmpty = false := by simpa using unnamed
    simp only [named, Bool.false_eq_true, if_false, unnamed, false_or]
    cases spec.validate <;> simp

theorem register_accepted (accepted : spec.accepted) : r.register spec = .ok (r.insert spec.spelled) :=
  (register_eq_ok_iff r).mpr ⟨accepted, rfl⟩

theorem register_refused (refused : spec.accepted = false) :
    ∃ refusal, r.register spec = .error refusal := by
  cases result : r.register spec with
  | error refusal => exact ⟨refusal, rfl⟩
  | ok r' => simp [((register_eq_ok_iff r).mp result).1] at refused

@[simp] theorem registerEach_nil : r.registerEach [] = r := rfl

theorem registerEach_singleton (spec : DialectSpec) :
    r.registerEach [spec] = match r.register spec with
      | .ok r' => r'
      | .error _ => r := rfl

theorem registerEach_append (specs more : List DialectSpec) :
    r.registerEach (specs ++ more) = (r.registerEach specs).registerEach more :=
  List.foldl_append

/-- One more registration: an accepted document is inserted, a refused one
changes nothing. -/
theorem registerEach_concat (specs : List DialectSpec) (spec : DialectSpec) :
    r.registerEach (specs ++ [spec]) =
      if spec.accepted then (r.registerEach specs).insert spec.spelled else r.registerEach specs := by
  rw [registerEach_append, registerEach_singleton]
  by_cases accepted : spec.accepted
  · rw [register_accepted _ accepted, if_pos accepted]
  · obtain ⟨refusal, result⟩ := register_refused (r.registerEach specs) (by simpa using accepted)
    rw [result, if_neg accepted]

theorem registerEach_single (spec : DialectSpec) :
    r.registerEach [spec] = if spec.accepted then r.insert spec.spelled else r :=
  registerEach_concat r [] spec

end Register

/-! ## The coherence invariant -/

/-- What every registry reached by registrations satisfies: the dialect table
is keyed by the name list, each name once; a dialect is registered under its
own name; an extension selects a registered dialect that has it. -/
structure Coherent (r : Registry) : Prop where
  keys : r.dialects.map Prod.fst = r.names
  nodup : r.names.Nodup
  named : ∀ n d, r.lookup n = some d → d.name = n
  selects : ∀ e n, r.extensions.lookup e = some n →
    ∃ d, r.lookup n = some d ∧ d.extension ≠ "" ∧ normalizeExtension d.extension = e

theorem lookup_isSome_iff (r : Registry) (n : String) :
    (r.lookup n).isSome ↔ n ∈ r.dialects.map Prod.fst := by
  unfold lookup
  rw [List.lookup_isSome_iff, List.mem_map]
  constructor
  · rintro ⟨p, mem, same⟩
    exact ⟨p, mem, (beq_iff_eq.mp same).symm⟩
  · rintro ⟨p, mem, rfl⟩
    exact ⟨p, mem, beq_self_eq_true _⟩

theorem coherent_empty : Coherent empty where
  keys := rfl
  nodup := .nil
  named := by simp [lookup, empty]
  selects := by simp [empty]

theorem Coherent.insert {r : Registry} (hr : Coherent r) (d : Dialect) : Coherent (r.insert d) where
  keys := by simp only [keys_insert, names_insert, lookup_isSome_iff, hr.keys]
  nodup := by
    rw [names_insert]
    split
    · exact hr.nodup
    · next absent =>
      rw [lookup_isSome_iff, hr.keys] at absent
      refine List.nodup_append.mpr ⟨hr.nodup, List.nodup_singleton _, ?_⟩
      intro a mem b single same
      rw [List.mem_singleton] at single
      subst single same
      exact absent mem
  named := by
    intro n d' found
    rw [lookup_insert] at found
    split at found
    · next same => cases found; exact same.symm
    · exact hr.named n d' found
  selects := by
    intro e n found
    rw [lookup_extensions_insert] at found
    split_ifs at found with new gone
    · cases found
      exact ⟨d, by simp, new.1, new.2.symm⟩
    · obtain ⟨d₀, registered, nonempty, extension⟩ := hr.selects e n found
      by_cases same : n = d.name
      · have named := hr.named n d₀ registered
        exact absurd ⟨d₀, same ▸ registered, nonempty, extension.symm, named ▸ found⟩ gone
      · exact ⟨d₀, by simp [same, registered], nonempty, extension⟩

theorem Coherent.registerEach {r : Registry} (hr : Coherent r) (specs : List DialectSpec) :
    Coherent (r.registerEach specs) := by
  induction specs using List.reverseRecOn with
  | nil => exact hr
  | append_singleton specs spec ih =>
    rw [registerEach_concat]
    split
    · exact ih.insert _
    · exact ih

/-- The names of a registry built from nothing are the names of the accepted
documents, each at its first registration. -/
theorem names_registerEach (specs : List DialectSpec) :
    (empty.registerEach specs).names =
      ((specs.filter DialectSpec.accepted).map (·.name)).eraseDups := by
  induction specs using List.reverseRecOn with
  | nil => rfl
  | append_singleton specs spec ih =>
    have coherent := coherent_empty.registerEach specs
    rw [registerEach_concat]
    by_cases accepted : spec.accepted
    · rw [if_pos accepted, names_insert, List.filter_append, List.filter_singleton, accepted,
        cond_true, List.map_append, List.eraseDups_append, ← ih]
      simp only [lookup_isSome_iff, coherent.keys, DialectSpec.spelled]
      by_cases seen : spec.name ∈ (empty.registerEach specs).names
      · have gone : [spec.name].removeAll ((specs.filter DialectSpec.accepted).map (·.name)) = [] := by
          rw [ih, List.mem_eraseDups] at seen
          simp [List.removeAll, seen]
        simp [seen, gone]
      · have kept : [spec.name].removeAll ((specs.filter DialectSpec.accepted).map (·.name)) =
            [spec.name] := by
          rw [ih, List.mem_eraseDups] at seen
          simp [List.removeAll, seen]
        simp [seen, kept, List.eraseDups_cons]
    · rw [if_neg accepted, ih, List.filter_append, List.filter_singleton,
        Bool.eq_false_iff.mpr accepted, cond_false, List.append_nil]

/-! ## Extensions -/

/-- An extension selects the dialect registered under the name it records,
and that dialect has the extension. -/
theorem Coherent.forExtension {r : Registry} (hr : Coherent r) {e : String} {d : Dialect}
    (found : r.forExtension e = some d) :
    r.lookup d.name = some d ∧ normalizeExtension d.extension = e := by
  obtain ⟨n, recorded, registered⟩ := Option.bind_eq_some_iff.mp found
  obtain ⟨d₀, registered₀, -, extension⟩ := hr.selects e n recorded
  cases registered.symm.trans registered₀
  exact ⟨hr.named n d registered ▸ registered, extension⟩

/-- Every registered dialect with an extension is selected by it. -/
def Complete (r : Registry) : Prop :=
  ∀ n d, r.lookup n = some d → d.extension ≠ "" →
    r.extensions.lookup (normalizeExtension d.extension) = some n

/-- Registering `d` would give it the normalised extension of a dialect
registered under another name. -/
def Shares (r : Registry) (d : Dialect) : Prop :=
  d.extension ≠ "" ∧ ∃ n d', r.lookup n = some d' ∧ n ≠ d.name ∧ d'.extension ≠ "" ∧
    normalizeExtension d'.extension = normalizeExtension d.extension

/-- No registration of a sequence gives a dialect the normalised extension of
a dialect registered under another name at that moment. -/
def ExtensionsApart : Registry → List DialectSpec → Prop
  | _, [] => True
  | r, spec :: rest =>
    (spec.accepted → ¬ r.Shares spec.spelled) ∧ ExtensionsApart (r.registerEach [spec]) rest

theorem complete_empty : Complete empty := by
  intro n d found
  simp [lookup, empty] at found

theorem Complete.insert {r : Registry} (hr : Coherent r) (hc : Complete r) {d : Dialect}
    (apart : ¬ r.Shares d) : Complete (r.insert d) := by
  intro n d' found nonempty
  rw [lookup_insert] at found
  rw [lookup_extensions_insert]
  split at found
  · next same =>
    cases found
    rw [if_pos ⟨nonempty, rfl⟩, same]
  · next other =>
    have shared : ¬ (d.extension ≠ "" ∧
        normalizeExtension d'.extension = normalizeExtension d.extension) :=
      fun ⟨own, equal⟩ => apart ⟨own, n, d', found, other, nonempty, equal⟩
    rw [if_neg shared, if_neg]
    · exact hc n d' found nonempty
    · rintro ⟨prev, registered, -, -, selected⟩
      rw [hc n d' found nonempty, hr.named _ prev registered] at selected
      exact other (Option.some.inj selected)

theorem Complete.registerEach {r : Registry} (hr : Coherent r) (hc : Complete r)
    {specs : List DialectSpec} (apart : ExtensionsApart r specs) :
    Complete (r.registerEach specs) := by
  induction specs generalizing r with
  | nil => exact hc
  | cons spec rest ih =>
    obtain ⟨fresh, later⟩ := apart
    rw [show spec :: rest = [spec] ++ rest from rfl, registerEach_append]
    refine ih (hr.registerEach [spec]) ?_ later
    rw [registerEach_single]
    split
    · next accepted => exact hc.insert hr (fresh accepted)
    · exact hc

/-- A sequence keeps extensions apart when none of its documents shares a
normalised extension with a dialect already registered under another name,
nor with another document of a different name. -/
theorem extensionsApart_of_distinct {r : Registry} (hr : Coherent r) {specs : List DialectSpec}
    (old : ∀ spec ∈ specs, spec.accepted → ¬ r.Shares spec.spelled)
    (distinct : specs.Pairwise fun s t => s.name ≠ t.name → s.extension ≠ "" →
      t.extension ≠ "" → normalizeExtension s.extension ≠ normalizeExtension t.extension) :
    ExtensionsApart r specs := by
  induction specs generalizing r with
  | nil => trivial
  | cons spec rest ih =>
    obtain ⟨first, later⟩ := List.pairwise_cons.mp distinct
    refine ⟨old spec List.mem_cons_self, ih (hr.registerEach [spec]) ?_ later⟩
    intro t mem accepted
    rw [registerEach_single]
    split
    · rintro ⟨own, n, d', found, other, nonempty, equal⟩
      rw [lookup_insert] at found
      split at found
      · next same =>
        cases found
        have named : spec.name ≠ t.name := fun eq => other (same.trans eq)
        exact first t mem named nonempty own equal
      · exact old t (List.mem_cons_of_mem _ mem) accepted ⟨own, n, d', found, other, nonempty, equal⟩
    · exact old t (List.mem_cons_of_mem _ mem) accepted

/-- A dialect found after registrations was found before, or is the one an
accepted document of the sequence spells. -/
theorem lookup_registerEach_eq_some {r : Registry} {specs : List DialectSpec} {n : String}
    {d : Dialect} (found : (r.registerEach specs).lookup n = some d) :
    r.lookup n = some d ∨ ∃ spec ∈ specs, spec.accepted ∧ d = spec.spelled := by
  induction specs using List.reverseRecOn generalizing d with
  | nil => exact .inl found
  | append_singleton specs spec ih =>
    rw [registerEach_concat] at found
    split at found
    · next accepted =>
      rw [lookup_insert] at found
      split at found
      · cases found
        exact .inr ⟨spec, by simp, accepted, rfl⟩
      · rcases ih found with before | ⟨t, mem, accepted, rfl⟩
        · exact .inl before
        · exact .inr ⟨t, by simp [mem], accepted, rfl⟩
    · rcases ih found with before | ⟨t, mem, accepted, rfl⟩
      · exact .inl before
      · exact .inr ⟨t, by simp [mem], accepted, rfl⟩

/-- With every listed extension selecting a registered dialect, each one that
`extensionList` gives selects a dialect with that extension. -/
theorem Coherent.extensionList_selects {r : Registry} (hr : Coherent r) (hc : Complete r)
    {e : String} (listed : e ∈ r.extensionList) :
    ∃ d, r.forExtension e = some d ∧ r.lookup d.name = some d ∧
      normalizeExtension d.extension = e := by
  obtain ⟨n, -, found⟩ := List.mem_filterMap.mp listed
  cases registered : r.lookup n with
  | none => simp [registered] at found
  | some d =>
    simp only [registered] at found
    split at found
    · cases found
    · next nonempty =>
      cases found
      have named := hr.named n d registered
      refine ⟨d, ?_, named ▸ registered, rfl⟩
      have selected := hc n d registered (by simpa using nonempty)
      show (r.extensions.lookup _).bind r.lookup = some d
      rw [selected]
      exact registered

/-- `get` answers a registered dialect as long as the default one is registered. -/
theorem get_registered (r : Registry) (hasDefault : (r.lookup defaultName).isSome) (name : String) :
    ∃ n, r.lookup n = some (r.get name) := by
  unfold get
  cases found : r.lookup name with
  | some d => exact ⟨name, found⟩
  | none =>
    obtain ⟨d, registered⟩ := Option.isSome_iff_exists.mp hasDefault
    exact ⟨defaultName, by simp [registered]⟩

/-! ## The standard registry -/

theorem coherent_standard : Coherent standard := coherent_empty.registerEach _

theorem builtin_extensions_distinct :
    Builtin.builtinSpecs.Pairwise fun s t => s.name ≠ t.name → s.extension ≠ "" →
      t.extension ≠ "" → normalizeExtension s.extension ≠ normalizeExtension t.extension := by
  decide +kernel

theorem complete_standard : Complete standard := by
  refine complete_empty.registerEach coherent_empty
    (extensionsApart_of_distinct coherent_empty ?_ builtin_extensions_distinct)
  rintro spec - - ⟨-, n, d, found, -⟩
  simp [lookup, empty] at found

theorem myriadSpec_accepted : Builtin.myriadSpec.accepted := by
  simp [DialectSpec.accepted, Builtin.myriadSpec_validate, Except.toBool]
  decide

/-- The names after registrations on top of the standard registry, and the
default dialect stays registered. -/
theorem names_standard_registerEach (specs : List DialectSpec) :
    (standard.registerEach specs).names =
      (((Builtin.builtinSpecs ++ specs).filter DialectSpec.accepted).map (·.name)).eraseDups := by
  rw [standard, ← registerEach_append, names_registerEach]

theorem default_registered (specs : List DialectSpec) :
    ((standard.registerEach specs).lookup defaultName).isSome := by
  have hr := coherent_standard.registerEach specs
  rw [lookup_isSome_iff, hr.keys, names_standard_registerEach, List.mem_eraseDups]
  exact List.mem_map.mpr ⟨Builtin.myriadSpec,
    List.mem_filter.mpr ⟨by simp [Builtin.builtinSpecs], myriadSpec_accepted⟩, rfl⟩

/-! ## Registrations keep the registry consistent -/

/-- Over any sequence of registrations on top of the standard registry: the
names are the accepted documents' names, each once, in the order of their
first registration, and `get` answers a registered dialect; an extension
selects the dialect registered under its own name, which has that extension;
every listed extension selects such a dialect as long as no registration gives
a dialect an extension that a dialect of another name already has; and a
document is refused exactly when it has no name or fails validation, leaving
the registry as it was. -/
theorem registrations_keep_registry_consistent (specs : List DialectSpec) :
    let r := standard.registerEach specs
    (r.names.Nodup ∧
      r.names = (((Builtin.builtinSpecs ++ specs).filter DialectSpec.accepted).map (·.name)).eraseDups ∧
      ∀ name, ∃ n, r.lookup n = some (r.get name)) ∧
    (∀ e d, r.forExtension e = some d → r.lookup d.name = some d ∧ normalizeExtension d.extension = e) ∧
    (ExtensionsApart standard specs → ∀ e ∈ r.extensionList,
      ∃ d, r.forExtension e = some d ∧ r.lookup d.name = some d ∧ normalizeExtension d.extension = e) ∧
    (∀ spec, (∃ refusal, r.register spec = .error refusal) ↔
      spec.name = "" ∨ ∃ refusal, spec.validate = .error refusal) ∧
    (∀ spec refusal, r.register spec = .error refusal → r.registerEach [spec] = r) := by
  intro r
  have hr : Coherent r := coherent_standard.registerEach specs
  refine ⟨⟨hr.nodup, names_standard_registerEach specs,
    get_registered r (default_registered specs)⟩, fun e d found => hr.forExtension found, ?_,
    fun spec => register_eq_error_iff r, ?_⟩
  · intro apart e listed
    exact hr.extensionList_selects (complete_standard.registerEach coherent_standard apart) listed
  · intro spec refusal refused
    rw [registerEach_singleton, refused]

/-- The myriad document under another name and extension. -/
def myriadAs (name extension : String) : DialectSpec := { Builtin.myriadSpec with name, extension }

@[simp] theorem myriadAs_name (name extension : String) :
    (myriadAs name extension).spelled.name = name := rfl

@[simp] theorem myriadAs_extension (name extension : String) :
    (myriadAs name extension).spelled.extension = extension := rfl

theorem myriadAs_accepted (name extension : String) (named : name ≠ "") :
    (myriadAs name extension).accepted := by
  have valid := DialectSpec.validate_rename Builtin.myriadSpec name extension Builtin.myriadSpec_validate
  simp [DialectSpec.accepted, myriadAs, valid, Except.toBool, named]

theorem builtin_lookup_eq_some {n : String} {d : Dialect} (found : standard.lookup n = some d) :
    ∃ spec ∈ Builtin.builtinSpecs, d = spec.spelled ∧ spec.name = n := by
  rcases lookup_registerEach_eq_some found with before | ⟨spec, mem, -, rfl⟩
  · simp [lookup, empty] at before
  · exact ⟨spec, mem, rfl, coherent_standard.named n _ found⟩

/-- Registering a dialect with an extension no built-in dialect has keeps the
extension selecting it. -/
theorem fresh_extension_stays_selected :
    ExtensionsApart standard [myriadAs "a" ".x"] ∧
      ∀ e ∈ (standard.registerEach [myriadAs "a" ".x"]).extensionList,
        ∃ d, (standard.registerEach [myriadAs "a" ".x"]).forExtension e = some d ∧
          (standard.registerEach [myriadAs "a" ".x"]).lookup d.name = some d ∧
          normalizeExtension d.extension = e := by
  have apart : ExtensionsApart standard [myriadAs "a" ".x"] := by
    refine ⟨?_, trivial⟩
    rintro - ⟨-, n, d, found, -, -, shared⟩
    obtain ⟨spec, mem, rfl, -⟩ := builtin_lookup_eq_some found
    have other : ∀ s ∈ Builtin.builtinSpecs, normalizeExtension s.extension ≠ ".x" := by
      decide +kernel
    have target : normalizeExtension (myriadAs "a" ".x").spelled.extension = ".x" := by
      decide +kernel
    exact other spec mem (shared.trans target)
  exact ⟨apart, (registrations_keep_registry_consistent [myriadAs "a" ".x"]).2.2.1 apart⟩

/-- When two dialects share an extension and the one it selects is registered
again with another extension, the shared extension selects nothing, although
the other dialect still lists it. -/
theorem shared_extension_left_unselected :
    ".x" ∈ (standard.registerEach [myriadAs "a" ".x", myriadAs "b" ".x", myriadAs "b" ".y"]).extensionList ∧
      (standard.registerEach
        [myriadAs "a" ".x", myriadAs "b" ".x", myriadAs "b" ".y"]).forExtension ".x" = none := by
  have run : standard.registerEach [myriadAs "a" ".x", myriadAs "b" ".x", myriadAs "b" ".y"] =
      ((standard.insert (myriadAs "a" ".x").spelled).insert (myriadAs "b" ".x").spelled).insert
        (myriadAs "b" ".y").spelled := by
    rw [show [myriadAs "a" ".x", myriadAs "b" ".x", myriadAs "b" ".y"] =
        [myriadAs "a" ".x"] ++ [myriadAs "b" ".x"] ++ [myriadAs "b" ".y"] from rfl,
      registerEach_concat, registerEach_concat, registerEach_single,
      if_pos (myriadAs_accepted _ _ (by decide)), if_pos (myriadAs_accepted _ _ (by decide)),
      if_pos (myriadAs_accepted _ _ (by decide))]
  have normal : ∀ e ∈ [".x", ".y"], normalizeExtension e = e := by decide +kernel
  rw [run]
  constructor
  · have hr := ((coherent_standard.insert (myriadAs "a" ".x").spelled).insert
      (myriadAs "b" ".x").spelled).insert (myriadAs "b" ".y").spelled
    refine List.mem_filterMap.mpr ⟨"a", ?_, ?_⟩
    · rw [← hr.keys, ← lookup_isSome_iff]
      simp
    · simp [normal]
  · -- the second registration of `b` drops `.x`, which then selected `b`
    have selectedB : ((standard.insert (myriadAs "a" ".x").spelled).insert
        (myriadAs "b" ".x").spelled).extensions.lookup ".x" = some "b" := by
      have own : (myriadAs "b" ".x").spelled.extension ≠ "" ∧
          ".x" = normalizeExtension (myriadAs "b" ".x").spelled.extension := by
        simp [normal]
      rw [lookup_extensions_insert, if_pos own]
      rfl
    have dropped : (((standard.insert (myriadAs "a" ".x").spelled).insert
        (myriadAs "b" ".x").spelled).insert (myriadAs "b" ".y").spelled).extensions.lookup ".x" =
          none := by
      rw [lookup_extensions_insert, if_neg (by simp [normal]),
        if_pos ⟨(myriadAs "b" ".x").spelled, by simp, by simp, by simp [normal], selectedB⟩]
    show (List.lookup ".x" _).bind _ = none
    rw [dropped]
    rfl

end Registry

end Vernacular
