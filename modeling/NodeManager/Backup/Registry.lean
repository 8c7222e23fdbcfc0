import NodeManager.Backup.Schedule
import Mathlib.Data.List.Nodup

/-!
# The backup module registry

The `operator` package keeps the backup modules by name in a `map[string]BackupModule`.
`RegisterBackupModule` refuses a name already taken; `selectBackupModule` picks the
module asked for by name or, when no name is given, the only one registered;
`selectRestoreModule` does the same among the modules that implement `Restore`, which
`restorable` finds by a type assertion.

A Go map is a list of entries here, each key once (`GoMap`), in the order they were
added. Go iterates a map in no fixed order; the order only shows in the list of names
of the "more than one module" errors. A nil map reads as an empty one, and the
operator's field is an `Option` so that `RegisterBackupModule`'s allocation shows.
A module is of any type `M`; whether its dynamic type implements `Restore` is
`canRestore`.

## What is proved

* `registerAll_error_iff`, `registerAll_lookup`: over any sequence of registrations, a
  call fails exactly when its name was in the registry at the start or was registered
  by an earlier call, and the registry maps each name to its module at the start or,
  else, to the module of its first registration.
* `selectModule_ok_iff`, `selectBackupModule_ne_impossiblePath`: a selection succeeds
  exactly with the module of the name asked for, or with the only module when no name
  is given; the "impossible path" is never taken.
* `mapValues_restorable`, `selectRestoreModule_eq_ok_iff`: `restorable` keeps exactly the
  modules whose type implements `Restore`, so a restore selection succeeds exactly with
  the module asked for, when it implements `Restore`, or with the only module that does.
-/

namespace NodeManager.Backup

/-- A Go `map[string]V`: its entries, each key once. -/
structure GoMap (V : Type) where
  /-- The entries, in the order they were added. -/
  entries : List (String × V)
  /-- No key twice. -/
  nodup : (entries.map Prod.fst).Nodup

namespace GoMap

variable {V W : Type}

/-- `make(map[string]V)`. -/
def empty : GoMap V := ⟨[], List.nodup_nil⟩

/-- The keys. -/
def keys (m : GoMap V) : List String := m.entries.map Prod.fst

/-- `len(m)`. -/
def len (m : GoMap V) : Nat := m.entries.length

/-- `m[k]`, with `ok`. -/
def lookup (m : GoMap V) (k : String) : Option V := m.entries.lookup k

/-- `m[k] = v`: the value of `k` replaced, or a new entry. -/
def insert (m : GoMap V) (k : String) (v : V) : GoMap V :=
  if h : k ∈ m.keys then
    ⟨m.entries.map fun e => if e.1 = k then (k, v) else e, by
      have : (m.entries.map fun e => if e.1 = k then (k, v) else e).map Prod.fst = m.keys := by
        simp only [keys, List.map_map]
        exact List.map_congr_left fun e _ => by by_cases h : e.1 = k <;> simp [h]
      exact this ▸ m.nodup⟩
  else
    ⟨m.entries ++ [(k, v)], by
      rw [List.map_append, List.nodup_append_comm]
      exact List.nodup_cons.mpr ⟨h, m.nodup⟩⟩

/-- Every value mapped by `f`, as a loop copying the map would. -/
def mapValues (f : V → W) (m : GoMap V) : GoMap W :=
  ⟨m.entries.map fun e => (e.1, f e.2), by
    simpa [List.map_map, Function.comp_def] using m.nodup⟩

theorem lookup_eq_none_iff (m : GoMap V) (k : String) : m.lookup k = none ↔ k ∉ m.keys := by
  simp only [lookup, keys, List.lookup_eq_none_iff, bne_iff_ne, List.mem_map]
  exact ⟨fun h ⟨e, he, hk⟩ => h e he hk.symm, fun h e he hk => h ⟨e, he, hk.symm⟩⟩

theorem lookup_isSome_iff (m : GoMap V) (k : String) : (m.lookup k).isSome ↔ k ∈ m.keys := by
  rw [← not_iff_not, Option.not_isSome_iff_eq_none, lookup_eq_none_iff]

/-- A new key: its entry comes after all others. -/
theorem insert_of_not_mem {m : GoMap V} {k : String} (h : k ∉ m.keys) (v : V) :
    (m.insert k v).entries = m.entries ++ [(k, v)] := by
  simp [insert, h]

theorem keys_insert_of_not_mem {m : GoMap V} {k : String} (h : k ∉ m.keys) (v : V) :
    (m.insert k v).keys = m.keys ++ [k] := by
  simp [keys, insert_of_not_mem h]

theorem lookup_insert_of_not_mem {m : GoMap V} {k : String} (h : k ∉ m.keys) (v : V)
    (j : String) :
    (m.insert k v).lookup j = (m.lookup j).or ([(k, v)].lookup j) := by
  simp only [lookup, insert_of_not_mem h, List.lookup_append]

theorem lookup_mapValues (f : V → W) (m : GoMap V) (k : String) :
    (m.mapValues f).lookup k = (m.lookup k).map f := by
  simp only [mapValues, lookup]
  generalize m.entries = es
  induction es with
  | nil => rfl
  | cons e es ih =>
    obtain ⟨a, b⟩ := e
    by_cases h : k = a
    · simp [List.lookup_cons, h]
    · have hk : (k == a) = false := by simpa using h
      simp [List.lookup_cons, hk, ih]

end GoMap

/-- `Operator`, with the fields the backup registry uses. -/
structure Operator (M : Type) where
  /-- `backupModules map[string]BackupModule`, nil until the first registration. -/
  backupModules : Option (GoMap M)
  /-- `backupSchedules []*BackupSchedule`. -/
  backupSchedules : List BackupSchedule

/-- The errors of the registry and of the two selections. -/
inductive RegistryError (M : Type) where
  /-- `backup module %q is already registered, previous module type %s`, with the module
  registered first. -/
  | alreadyRegistered (name : String) (existing : M)
  /-- `no registered backup modules`. -/
  | noModules
  /-- `invalid backup module: %s`. -/
  | invalidModule (name : String)
  /-- `more than one module registered, and none specified (%s)`, the names joined by `,`. -/
  | moreThanOne (names : List String)
  /-- `none of the registered backup modules support 'restore'`. -/
  | noRestorable
  /-- `invalid restorable backup module: %s`. -/
  | invalidRestorable (name : String)
  /-- `more than one restorable module registered, and none specified (%s)`. -/
  | moreThanOneRestorable (names : List String)
  /-- `impossible path`. -/
  | impossiblePath

variable {M : Type}

namespace Operator

/-- The registry as the selections read it: a nil map is empty. -/
def modules (o : Operator M) : GoMap M := o.backupModules.getD .empty

/-- `RegisterBackupModule(name, mod)`: what it returns, and the operator after. -/
def registerBackupModule (o : Operator M) (name : String) (mod : M) :
    Except (RegistryError M) Unit × Operator M :=
  let mods := o.backupModules.getD .empty
  match mods.lookup name with
  | some existing =>
    (.error (.alreadyRegistered name existing), { o with backupModules := some mods })
  | none => (.ok (), { o with backupModules := some (mods.insert name mod) })

/-- `RegisterBackupSchedule(sched)`. -/
def registerBackupSchedule (o : Operator M) (sched : BackupSchedule) : Operator M :=
  { o with backupSchedules := o.backupSchedules ++ [sched] }

/-- `RegisterBackupModule` called on each pair in turn: what each call returned, and the
operator after the last. -/
def registerAll (o : Operator M) :
    List (String × M) → List (Except (RegistryError M) Unit) × Operator M
  | [] => ([], o)
  | (name, mod) :: rest =>
    ((o.registerBackupModule name mod).1 ::
        ((o.registerBackupModule name mod).2.registerAll rest).1,
      ((o.registerBackupModule name mod).2.registerAll rest).2)

theorem registerBackupModule_of_lookup_some {o : Operator M} {name : String} {existing : M}
    (h : o.modules.lookup name = some existing) (mod : M) :
    o.registerBackupModule name mod = (.error (.alreadyRegistered name existing), o) := by
  obtain ⟨_ | mods, schedules⟩ := o
  · simp [modules, GoMap.empty, GoMap.lookup] at h
  · simp_all [registerBackupModule, modules]

theorem registerBackupModule_of_lookup_none {o : Operator M} {name : String}
    (h : o.modules.lookup name = none) (mod : M) :
    (o.registerBackupModule name mod).1 = .ok () ∧
      (o.registerBackupModule name mod).2.modules = o.modules.insert name mod := by
  simp_all [registerBackupModule, modules]

theorem mem_keys_registerBackupModule (o : Operator M) (name : String) (mod : M) (k : String) :
    k ∈ (o.registerBackupModule name mod).2.modules.keys ↔
      k ∈ o.modules.keys ∨ k = name := by
  cases h : o.modules.lookup name with
  | some existing =>
    have hk : name ∈ o.modules.keys := (GoMap.lookup_isSome_iff _ _).mp (by simp [h])
    rw [registerBackupModule_of_lookup_some h]
    exact ⟨.inl, fun h' => h'.elim id (· ▸ hk)⟩
  | none =>
    rw [(registerBackupModule_of_lookup_none h mod).2,
      GoMap.keys_insert_of_not_mem ((GoMap.lookup_eq_none_iff _ _).mp h)]
    simp

theorem lookup_registerBackupModule (o : Operator M) (name : String) (mod : M) (k : String) :
    (o.registerBackupModule name mod).2.modules.lookup k =
      (o.modules.lookup k).or ([(name, mod)].lookup k) := by
  cases h : o.modules.lookup name with
  | some existing =>
    rw [registerBackupModule_of_lookup_some h]
    by_cases hk : k = name
    · simp [hk, h]
    · simp [List.lookup_cons, show (k == name) = false by simpa using hk]
  | none =>
    rw [(registerBackupModule_of_lookup_none h mod).2,
      GoMap.lookup_insert_of_not_mem ((GoMap.lookup_eq_none_iff _ _).mp h)]

/-- A rejected registration leaves the operator as it was. -/
theorem registerBackupModule_error {o : Operator M} {name : String} {mod : M}
    {e : RegistryError M} (h : (o.registerBackupModule name mod).1 = .error e) :
    (o.registerBackupModule name mod).2 = o := by
  cases hl : o.modules.lookup name with
  | some existing => rw [registerBackupModule_of_lookup_some hl]
  | none => simp [(registerBackupModule_of_lookup_none hl mod).1] at h

/-- Call `i` of a sequence of registrations fails exactly when its name was taken at the
start or by an earlier call. -/
theorem registerAll_error_iff (o : Operator M) (calls : List (String × M)) (i : Nat)
    (hi : i < calls.length) :
    (∃ e, (o.registerAll calls).1[i]? = some (.error e)) ↔
      calls[i].1 ∈ o.modules.keys ∨ calls[i].1 ∈ (calls.take i).map Prod.fst := by
  induction calls generalizing o i with
  | nil => cases hi
  | cons c calls ih =>
    obtain ⟨name, mod⟩ := c
    cases i with
    | zero =>
      cases h : o.modules.lookup name with
      | some existing =>
        simp [registerAll, registerBackupModule_of_lookup_some h,
          (GoMap.lookup_isSome_iff _ _).mp (by simp [h] : (o.modules.lookup name).isSome)]
      | none =>
        simp [registerAll, (registerBackupModule_of_lookup_none h mod).1,
          (GoMap.lookup_eq_none_iff _ _).mp h]
    | succ i =>
      have := ih (o.registerBackupModule name mod).2 i (by simpa using hi)
      simp only [registerAll, List.getElem?_cons_succ, List.getElem_cons_succ] at this ⊢
      rw [this, mem_keys_registerBackupModule]
      simp only [List.take_succ_cons, List.map_cons, List.mem_cons]
      exact or_assoc

/-- After a sequence of registrations, a name maps to the module it had at the start or,
failing that, to the module of its first registration. -/
theorem registerAll_lookup (o : Operator M) (calls : List (String × M)) (k : String) :
    (o.registerAll calls).2.modules.lookup k = (o.modules.lookup k).or (calls.lookup k) := by
  induction calls generalizing o with
  | nil => simp [registerAll]
  | cons c calls ih =>
    obtain ⟨name, mod⟩ := c
    rw [registerAll, ih, lookup_registerBackupModule, Option.or_assoc, ← List.lookup_append]
    rfl

end Operator

/-! ### Selecting a module -/

section Select

variable {V : Type}

/-- The body `selectBackupModule` and `selectRestoreModule` share: the module asked for by
name, else the only one; with the errors each reports when there is none, when the name
is unknown, and when there are several. -/
def selectModule (noneErr : RegistryError M) (invalidErr : String → RegistryError M)
    (manyErr : List String → RegistryError M) (mods : GoMap V) (optionalName : String) :
    Except (RegistryError M) V :=
  if mods.len = 0 then .error noneErr
  else if optionalName ≠ "" then
    match mods.lookup optionalName with
    | some chosen => .ok chosen
    | none => .error (invalidErr optionalName)
  else if mods.len > 1 then .error (manyErr mods.keys)
  else
    match mods.entries with
    | (_, mod) :: _ => .ok mod
    | [] => .error .impossiblePath

/-- `selectBackupModule(mods, optionalName)`. -/
def selectBackupModule (mods : GoMap M) (optionalName : String) : Except (RegistryError M) M :=
  selectModule .noModules .invalidModule .moreThanOne mods optionalName

/-- `restorable(in)`: the modules whose type implements `Restore`, under their names, as
the loop over `in` copies them. -/
def restorable (canRestore : M → Bool) (m : GoMap M) : GoMap {x : M // canRestore x} :=
  m.entries.foldl (fun out e => if h : canRestore e.2 then out.insert e.1 ⟨e.2, h⟩ else out)
    .empty

/-- `selectRestoreModule(choices, optionalName)`. -/
def selectRestoreModule (canRestore : M → Bool) (choices : GoMap M) (optionalName : String) :
    Except (RegistryError M) {x : M // canRestore x} :=
  selectModule .noRestorable .invalidRestorable .moreThanOneRestorable
    (restorable canRestore choices) optionalName

variable {noneErr : RegistryError M} {invalidErr : String → RegistryError M}
  {manyErr : List String → RegistryError M}

/-- A selection succeeds exactly with the module of the name asked for, or, when no name
is given, with the only module. -/
theorem selectModule_ok_iff (mods : GoMap V) (n : String) (v : V) :
    selectModule noneErr invalidErr manyErr mods n = .ok v ↔
      (n ≠ "" ∧ mods.lookup n = some v) ∨ (n = "" ∧ ∃ k, mods.entries = [(k, v)]) := by
  unfold selectModule
  split_ifs with h0 hn h1
  · have : mods.entries = [] := List.length_eq_zero.mp h0
    simp [GoMap.lookup, this]
  · cases hl : mods.lookup n <;> simp [hn, hl]
  · have : ∀ k, mods.entries ≠ [(k, v)] := fun k he => by simp [GoMap.len, he] at h1
    simp only [not_not] at hn
    simp [this, hn]
  · obtain ⟨⟨k, w⟩, he⟩ : ∃ e, mods.entries = [e] :=
      List.length_eq_one.mp (by simp only [GoMap.len] at h0 h1; omega)
    simp only [not_not] at hn
    simp [he, hn, eq_comm]

/-- A selection fails only with one of its three errors: no module, the name unknown, or
several and no name. -/
theorem selectModule_error {mods : GoMap V} {n : String} {e : RegistryError M}
    (h : selectModule noneErr invalidErr manyErr mods n = .error e) :
    e = noneErr ∨ e = invalidErr n ∨ e = manyErr mods.keys := by
  unfold selectModule at h
  split_ifs at h with h0 hn h1
  · cases h; exact .inl rfl
  · cases hl : mods.lookup n <;> simp only [hl, Except.error.injEq, reduceCtorEq] at h
    exact .inr (.inl h.symm)
  · cases h; exact .inr (.inr rfl)
  · obtain ⟨⟨k, w⟩, he⟩ : ∃ e, mods.entries = [e] :=
      List.length_eq_one.mp (by simp only [GoMap.len] at h0 h1; omega)
    simp [he] at h

theorem selectBackupModule_ne_impossiblePath (mods : GoMap M) (n : String) :
    selectBackupModule mods n ≠ .error .impossiblePath := fun h => by
  rcases selectModule_error h with h | h | h <;> cases h

private theorem entries_mapValues_eq_singleton {W : Type} {f : V → W} (hf : Function.Injective f)
    (mods : GoMap V) (k : String) (v : V) :
    (mods.mapValues f).entries = [(k, f v)] ↔ mods.entries = [(k, v)] := by
  obtain ⟨_ | ⟨⟨a, b⟩, _ | ⟨e, es⟩⟩, _⟩ := mods <;>
    simp [GoMap.mapValues, hf.eq_iff]

/-- Selecting among the modules mapped by an injective `f` selects the image of what a
selection among the modules themselves does, whatever errors either reports. -/
theorem selectModule_mapValues_ok_iff {W : Type} {f : V → W} (hf : Function.Injective f)
    {noneErr' : RegistryError M} {invalidErr' : String → RegistryError M}
    {manyErr' : List String → RegistryError M} (mods : GoMap V) (n : String) (v : V) :
    selectModule noneErr' invalidErr' manyErr' (mods.mapValues f) n = .ok (f v) ↔
      selectModule noneErr invalidErr manyErr mods n = .ok v := by
  simp only [selectModule_ok_iff, GoMap.lookup_mapValues, entries_mapValues_eq_singleton hf,
    Option.map_eq_some', hf.eq_iff, exists_eq_right]

/-- A restore selection succeeds with `m` exactly when a backup selection among the
modules `restorable` keeps succeeds with it. -/
theorem selectRestoreModule_ok_iff (canRestore : M → Bool) (choices : GoMap M) (n : String)
    (m : {x : M // canRestore x}) :
    selectRestoreModule canRestore choices n = .ok m ↔
      selectBackupModule ((restorable canRestore choices).mapValues Subtype.val) n = .ok m.1 :=
  (selectModule_mapValues_ok_iff Subtype.val_injective _ _ _).symm

private theorem foldl_restorable (canRestore : M → Bool) (es : List (String × M))
    (out : GoMap {x : M // canRestore x}) (hnd : (es.map Prod.fst).Nodup)
    (hdisj : ∀ k ∈ out.keys, k ∉ es.map Prod.fst) :
    ((es.foldl (fun out e => if h : canRestore e.2 then out.insert e.1 ⟨e.2, h⟩ else out)
        out).mapValues Subtype.val).entries =
      (out.mapValues Subtype.val).entries ++ es.filter (canRestore ·.2) := by
  induction es generalizing out with
  | nil => simp
  | cons e es ih =>
    obtain ⟨a, v⟩ := e
    simp only [List.map_cons, List.nodup_cons] at hnd
    have ha : a ∉ out.keys := fun h => hdisj a h (.head _)
    rw [List.foldl_cons]
    by_cases hv : canRestore v
    · have hk := GoMap.keys_insert_of_not_mem ha ⟨v, hv⟩
      rw [dif_pos hv, ih _ hnd.2 fun j hj hjes => ?_]
      · simp [GoMap.mapValues, GoMap.insert_of_not_mem ha, hv]
      · rw [hk] at hj
        rcases List.mem_append.mp hj with hj | hj
        · exact hdisj j hj (.tail _ hjes)
        · exact hnd.1 (List.mem_singleton.mp hj ▸ hjes)
    · rw [dif_neg hv, ih _ hnd.2 fun j hj hjes => hdisj j hj (.tail _ hjes)]
      simp [hv]

/-- `restorable` keeps the entries of the modules whose type implements `Restore`, in the
order it reads them. -/
theorem mapValues_restorable (canRestore : M → Bool) (m : GoMap M) :
    ((restorable canRestore m).mapValues Subtype.val).entries =
      m.entries.filter (canRestore ·.2) := by
  simpa using foldl_restorable canRestore m.entries .empty m.nodup fun _ h => nomatch h

theorem lookup_filter_of_nodup (p : M → Bool) (es : List (String × M))
    (hnd : (es.map Prod.fst).Nodup) (k : String) :
    (es.filter (p ·.2)).lookup k = (es.lookup k).filter p := by
  induction es with
  | nil => rfl
  | cons e es ih =>
    obtain ⟨a, v⟩ := e
    simp only [List.map_cons, List.nodup_cons] at hnd
    by_cases hk : k = a
    · subst hk
      have hes : es.lookup k = none := List.lookup_eq_none_iff.mpr fun q hq => by
        simpa using fun h => hnd.1 (List.mem_map.mpr ⟨q, hq, h.symm⟩)
      by_cases hv : p v <;>
        simp [List.filter_cons, hv, List.lookup_cons, ih hnd.2, hes, Option.filter]
    · have hka : (k == a) = false := by simpa using hk
      by_cases hv : p v <;> simp [List.filter_cons, hv, List.lookup_cons, hka, ih hnd.2]

/-- `selectRestoreModule` picks the module asked for by name, when its type implements
`Restore`, or, when no name is given, the only module whose type implements it. -/
theorem selectRestoreModule_eq_ok_iff (canRestore : M → Bool) (choices : GoMap M) (n : String)
    (m : {x : M // canRestore x}) :
    selectRestoreModule canRestore choices n = .ok m ↔
      (n ≠ "" ∧ choices.lookup n = some m.1) ∨
        (n = "" ∧ ∃ k, choices.entries.filter (canRestore ·.2) = [(k, m.1)]) := by
  have key : ∀ o : Option M, o.filter canRestore = some m.1 ↔ o = some m.1 := fun o => by
    cases o with
    | none => simp [Option.filter]
    | some a =>
      by_cases h : canRestore a <;> simp only [Option.filter, h, if_true, if_false, reduceCtorEq,
        Option.some.injEq, false_iff, Bool.false_eq_true]
      exact fun ha => h (ha ▸ m.2)
  rw [selectRestoreModule_ok_iff, selectBackupModule, selectModule_ok_iff, GoMap.lookup,
    mapValues_restorable, lookup_filter_of_nodup _ _ choices.nodup, key]
  rfl

end Select

/-- The registry over a sequence of registrations, and the selections from a registry.
From a nil or empty registry, where `o.modules` has no keys, a call fails exactly when
an earlier call registered its name, and each name maps to its first registration. A
restore selection is a backup selection among the modules `restorable` keeps, which are
the entries of the registry whose modules implement `Restore`, in the registry's order. -/
theorem registerAll_then_select (canRestore : M → Bool) (o : Operator M)
    (calls : List (String × M)) :
    (∀ i (hi : i < calls.length),
      (∃ e, (o.registerAll calls).1[i]? = some (.error e)) ↔
        calls[i].1 ∈ o.modules.keys ∨ calls[i].1 ∈ (calls.take i).map Prod.fst) ∧
    (∀ (o' : Operator M) name mod e, (o'.registerBackupModule name mod).1 = .error e →
      (o'.registerBackupModule name mod).2 = o') ∧
    (∀ k, (o.registerAll calls).2.modules.lookup k = (o.modules.lookup k).or (calls.lookup k)) ∧
    (∀ (R : GoMap M) n m, selectBackupModule R n = .ok m ↔
      (n ≠ "" ∧ R.lookup n = some m) ∨ (n = "" ∧ ∃ k, R.entries = [(k, m)])) ∧
    (∀ (R : GoMap M) n, selectBackupModule R n ≠ .error .impossiblePath) ∧
    (∀ (R : GoMap M) n (m : {x : M // canRestore x}), selectRestoreModule canRestore R n = .ok m ↔
      selectBackupModule ((restorable canRestore R).mapValues Subtype.val) n = .ok m.1) ∧
    (∀ R : GoMap M, ((restorable canRestore R).mapValues Subtype.val).entries =
      R.entries.filter (canRestore ·.2)) :=
  ⟨o.registerAll_error_iff calls, fun _ _ _ _ => Operator.registerBackupModule_error,
    o.registerAll_lookup calls, selectModule_ok_iff, selectBackupModule_ne_impossiblePath,
    selectRestoreModule_ok_iff canRestore, mapValues_restorable canRestore⟩

end NodeManager.Backup
