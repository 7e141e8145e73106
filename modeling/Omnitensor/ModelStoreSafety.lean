/-
This file proves that a loaded model is not torn down under a job, and when none leaks.

Every value has one place: it is cached, on its way out of the cache, parked, chosen for release or
released. A value is chosen only while no job is in flight, after it has left the cache; a job
obtains values from the cache alone, so it holds none that was chosen. A lookup that cannot read
the revision is the one step after which a value has no place.
-/

import Omnitensor.ModelStore

namespace Omnitensor

/-! ### What a lookup does to the cache -/

namespace ModelCache

variable {cache : ModelCache} {modelPath : String} {revision : List FileStamp} {value : Nat}

variable {stored entry : List FileStamp × Nat}

theorem values_erase_perm (found : cache.entries.get? modelPath = some stored) :
    cache.values.Perm (stored.2 :: (cache.entries.erase modelPath).values.map Prod.snd) :=
  (Dict.values_perm_of_get? found).map Prod.snd

theorem values_put_perm (cache : ModelCache) (modelPath : String) (revision : List FileStamp)
    (value : Nat) : (cache.put modelPath revision value).values.Perm
      (value :: (cache.entries.erase modelPath).values.map Prod.snd) := by
  have set := (Dict.values_set_perm (cache.entries.erase modelPath) modelPath
    (revision, value)).map Prod.snd
  rwa [Dict.erase_erase_self] at set

theorem values_put_perm_of_get? (found : cache.entries.get? modelPath = some (revision, value)) :
    (cache.put modelPath revision value).values.Perm cache.values :=
  (values_put_perm ..).trans (values_erase_perm found).symm

/-- The values that leave the cache are the ones that it no longer has. -/
theorem values_keep_perm (cache : ModelCache) (modelPath : String) (revision : List FileStamp)
    (value : Nat) :
    ((cache.keep modelPath revision value).2 ++ (cache.keep modelPath revision value).1.values).Perm
      (value :: cache.values) := by
  have put := values_put_perm cache modelPath revision value
  generalize grown : cache.put modelPath revision value = larger at put
  have split : ∀ excess, ((larger.entries.take excess).values.map Prod.snd) ++
      ((larger.entries.drop excess).values.map Prod.snd) = larger.values := by
    intro excess
    rw [← List.map_append]
    exact congrArg (List.map Prod.snd)
      ((List.map_append ..).symm.trans (congrArg _ (List.take_append_drop excess _)))
  simp only [keep, grown]
  rw [List.append_assoc]
  show (_ ++ (_ ++ ((larger.entries.drop _).values.map Prod.snd))).Perm _
  rw [split]
  cases found : cache.entries.get? modelPath with
  | none =>
    have absent := Dict.erase_of_not_mem (Dict.get?_eq_none_iff.mp found)
    rw [absent] at put
    exact put
  | some stored =>
    refine (put.append_left [stored.2]).trans ?_
    exact (List.Perm.swap value stored.2 _).trans ((values_erase_perm found).symm.cons value)

theorem size_put_of_get? (found : cache.entries.get? modelPath = some stored) :
    (cache.put modelPath revision value).entries.size = cache.entries.size := by
  have absent : modelPath ∉ (cache.entries.erase modelPath).keys := fun member =>
    (Dict.mem_keys_erase.mp member).1 rfl
  show (Dict.set _ _ _).size = _
  rw [Dict.size_set, if_neg absent, Dict.size_erase_add_one found]

theorem size_keep (cache : ModelCache) (modelPath : String) (revision : List FileStamp)
    (value : Nat) : (cache.keep modelPath revision value).1.entries.size ≤ cache.maxEntries := by
  show (Dict.drop _ _).size ≤ _
  rw [Dict.size_drop]
  omega

theorem get?_put {id : String}
    (found : (cache.put modelPath revision value).entries.get? id = some entry) :
    cache.entries.get? id = some entry ∨ id = modelPath ∧ entry = (revision, value) := by
  rw [put, Dict.get?_set, Dict.get?_erase] at found
  split at found
  · rename_i same
    exact Or.inr ⟨same, (Option.some.inj found).symm⟩
  · exact Or.inl found

theorem get?_keep {id : String}
    (found : (cache.keep modelPath revision value).1.entries.get? id = some entry) :
    cache.entries.get? id = some entry ∨ id = modelPath ∧ entry = (revision, value) :=
  get?_put (Dict.get?_of_get?_drop found)

theorem get?_of_hit (hits : cache.hit modelPath revision = some value) :
    cache.entries.get? modelPath = some (revision, value) := by
  unfold hit at hits
  split at hits
  · rename_i stored kept found
    split at hits
    · rename_i same
      cases hits
      rw [found, same]
    · cases hits
  · cases hits

/-- What a lookup does to the cache: it raises, finds a value, or builds one, which is kept when the
revision could be read. -/
inductive Looked (cache : ModelCache) (modelPath : String) (revision : Option (List FileStamp))
    (build : Option Nat) : ModelCache × Option Nat × List Nat → Prop where
  | raised (raises : build = none) : Looked cache modelPath revision build (cache, none, [])
  | hit {stamps : List FileStamp} {value : Nat} (reads : revision = some stamps)
      (found : cache.entries.get? modelPath = some (stamps, value)) :
      Looked cache modelPath revision build (cache.put modelPath stamps value, some value, [])
  | uncached {value : Nat} (unreadable : revision = none) (builds : build = some value) :
      Looked cache modelPath revision build
        ({ cache with entries := cache.entries.erase modelPath }, some value, [])
  | kept {stamps : List FileStamp} {value : Nat} (reads : revision = some stamps)
      (builds : build = some value) :
      Looked cache modelPath revision build
        ((cache.keep modelPath stamps value).1, some value, (cache.keep modelPath stamps value).2)

theorem looked_getOrBuild (cache : ModelCache) (modelPath : String)
    (revision : Option (List FileStamp)) (build : Option Nat) :
    Looked cache modelPath revision build (cache.getOrBuild modelPath revision build) := by
  unfold getOrBuild
  cases revision with
  | none =>
    cases build with
    | none => exact .raised rfl
    | some value => exact .uncached rfl rfl
  | some stamps =>
    dsimp only
    split
    · rename_i value hits
      exact .hit rfl (get?_of_hit hits)
    · cases build with
      | none => exact .raised rfl
      | some value => exact .kept rfl rfl

end ModelCache

/-! ### The places of values -/

namespace CacheSection

/-- The values a section still hands over. -/
def handed (locked : Option CacheSection) : List Nat := locked.elim [] CacheSection.handing

/-- The value a section decided to release. -/
def decided (locked : Option CacheSection) : List Nat := (locked.bind CacheSection.deciding).toList

end CacheSection

namespace ModelStore

@[simp] theorem handed_none : CacheSection.handed none = [] := rfl

@[simp] theorem decided_none : CacheSection.decided none = [] := rfl

@[simp] theorem handed_some (caller deciding : Option Nat) (handing : List Nat) :
    CacheSection.handed (some ⟨caller, deciding, handing⟩) = handing := rfl

@[simp] theorem decided_some (caller deciding : Option Nat) (handing : List Nat) :
    CacheSection.decided (some ⟨caller, deciding, handing⟩) = deciding.toList := rfl

@[simp] theorem handed_holding (caller : Option Nat) (handing : List Nat) :
    CacheSection.handed (holding caller handing) = handing := by
  cases handing <;> rfl

@[simp] theorem decided_holding (caller : Option Nat) (handing : List Nat) :
    CacheSection.decided (holding caller handing) = [] := by
  cases handing <;> rfl

/-- The values that are not chosen for release yet. -/
def kept (store : ModelStore) : List Nat :=
  store.cache.values ++ (CacheSection.handed store.locked ++ store.pending)

/-- The values that are released or will be, whatever happens. -/
def chosen (store : ModelStore) : List Nat :=
  CacheSection.decided store.locked ++ (store.jobs.flatMap RunningJob.parked ++ store.released)

/-- Every value that has a place. -/
def places (store : ModelStore) : List Nat := store.kept ++ store.chosen

/-! ### Jobs that obtain values -/

/-- What is not the list of obtained values is read alike after a job obtained a value. -/
theorem map_obtain {Value : Type} {read : RunningJob → Value}
    (same : ∀ (job : RunningJob) (obtained : List Nat),
      read { job with obtained := obtained } = read job)
    (jobs : List RunningJob) (caller value : Option Nat) :
    (obtain jobs caller value).map read = jobs.map read := by
  unfold obtain
  split
  · exact Table.map_modify jobs _ fun job => same job _
  · rfl

theorem parked_obtain (jobs : List RunningJob) (caller value : Option Nat) :
    (obtain jobs caller value).flatMap RunningJob.parked = jobs.flatMap RunningJob.parked := by
  rw [List.flatMap_def, List.flatMap_def, map_obtain fun _ _ => rfl]

theorem countP_obtain (jobs : List RunningJob) (caller value : Option Nat) :
    (obtain jobs caller value).countP RunningJob.inside = jobs.countP RunningJob.inside := by
  have same : (obtain jobs caller value).map RunningJob.inside = jobs.map RunningJob.inside :=
    map_obtain (fun _ _ => rfl) jobs caller value
  have counted := congrArg (List.countP id) same
  rwa [List.countP_map, List.countP_map] at counted

/-- What a job has, it had before or obtains now. -/
theorem mem_obtain {jobs : List RunningJob} {caller value : Option Nat} {job : RunningJob}
    (member : job ∈ obtain jobs caller value) : ∃ old ∈ jobs, job.phase = old.phase ∧
      ∀ own ∈ job.obtained, own ∈ old.obtained ∨ value = some own := by
  unfold obtain at member
  split at member
  · rename_i index value
    rcases Table.mem_modify member with same | ⟨old, known, rfl⟩
    · exact ⟨job, same, rfl, fun own mine => Or.inl mine⟩
    · refine ⟨old, known, rfl, fun own mine => ?_⟩
      rcases List.mem_append.mp mine with before | now
      · exact Or.inl before
      · exact Or.inr (congrArg some (List.mem_singleton.mp now).symm)
  · exact ⟨job, member, rfl, fun own mine => Or.inl mine⟩

/-- A lookup that builds gives the next number to the value. -/
theorem eq_of_build {builds : Bool} {count value : Nat}
    (built : (if builds then some count else none) = some value) : builds = true ∧ value = count := by
  cases builds with
  | true => exact ⟨rfl, (Option.some.inj built).symm⟩
  | false => cases built

/-! ### Where values go -/

section

variable {store : ModelStore}

/-- A lookup takes values out of the cache, and may build one that gets no place. -/
theorem places_looked (unlocked : store.locked = none) (caller : Option Nat) {cache : ModelCache}
    {value : Option Nat} {removed dropped fresh : List Nat} (built : List BuiltValue)
    (moves : (dropped ++ (removed ++ cache.values)).Perm (fresh ++ store.cache.values)) :
    (dropped ++ ModelStore.places { store with
      cache := cache, locked := holding caller removed, jobs := obtain store.jobs caller value
      built := built }).Perm (fresh ++ store.places) := by
  refine List.perm_iff_count.mpr fun own => ?_
  have here := List.perm_iff_count.mp moves own
  simp only [places, kept, chosen, handed_holding, decided_holding, parked_obtain, unlocked,
    handed_none, decided_none, List.count_append, List.count_nil] at here ⊢
  omega

theorem chosen_enter : ModelStore.chosen { store with
    inFlight := store.inFlight + 1
    jobs := store.jobs ++ [⟨.inside, []⟩] } = store.chosen := by
  simp [chosen, RunningJob.parked]

variable {value index : Nat} {caller : Option Nat} {handing : List Nat} {job : RunningJob}

theorem places_handOver (locked : store.locked = some ⟨caller, none, value :: handing⟩) :
    (store.handOver caller value handing).places.Perm store.places := by
  refine List.perm_iff_count.mpr fun own => ?_
  unfold ModelStore.handOver
  split <;>
    simp only [places, kept, chosen, handed_holding, decided_holding, locked, handed_some,
      decided_some, Option.toList_some, Option.toList_none, List.count_append, List.count_cons,
      List.count_nil] <;>
    omega

theorem chosen_release (locked : store.locked = some ⟨caller, some value, handing⟩) :
    (ModelStore.chosen { store with
      locked := holding caller handing, released := store.released ++ [value] }).Perm
      store.chosen := by
  refine List.perm_iff_count.mpr fun own => ?_
  simp only [chosen, decided_holding, locked, decided_some, Option.toList_some,
    List.count_append, List.count_cons, List.count_nil]
  omega

theorem places_release (locked : store.locked = some ⟨caller, some value, handing⟩) :
    (ModelStore.places { store with
      locked := holding caller handing, released := store.released ++ [value] }).Perm
      store.places := by
  refine List.Perm.append ?_ (chosen_release locked)
  simp only [kept, handed_holding, locked, handed_some]
  exact List.Perm.refl _

/-- What a job takes when it leaves is gathered from it. -/
theorem parked_left (stored : store.jobs[index]? = some job) (inside : job.inside = true)
    (parked : List Nat) :
    ((store.jobs.set index { job with phase := .left parked }).flatMap RunningJob.parked).Perm
      (store.jobs.flatMap RunningJob.parked ++ parked) := by
  have notParked : job.parked = [] := by
    rw [RunningJob.parked, of_decide_eq_true inside]
  have moved := Table.flatMap_set stored { job with phase := .left parked } RunningJob.parked
  rwa [notParked, List.append_nil] at moved

/-- A job that is not the last one takes nothing. -/
theorem chosen_leave (stored : store.jobs[index]? = some job) (inside : job.inside = true)
    (others : store.inFlight - 1 ≠ 0) : (store.leave index job).chosen.Perm store.chosen := by
  have same := parked_left stored inside []
  rw [List.append_nil] at same
  simp only [ModelStore.leave, if_neg others]
  exact List.Perm.append_left _ (same.append_right _)

theorem places_leave (stored : store.jobs[index]? = some job) (inside : job.inside = true) :
    (store.leave index job).places.Perm store.places := by
  by_cases last : store.inFlight - 1 = 0
  · refine List.perm_iff_count.mpr fun own => ?_
    have here := List.perm_iff_count.mp (parked_left stored inside store.pending) own
    simp only [List.count_append] at here
    simp only [ModelStore.leave, if_pos last, places, kept, chosen, List.count_append,
      List.count_nil, here]
    omega
  · have keptSame : (store.leave index job).kept = store.kept := by
      simp only [ModelStore.leave, if_neg last, kept]
    rw [places, keptSame]
    exact List.Perm.append_left _ (chosen_leave stored inside last)

theorem chosen_releaseParked {parked obtained : List Nat}
    (stored : store.jobs[index]? = some ⟨.left (value :: parked), obtained⟩) :
    (ModelStore.chosen { store with
      jobs := store.jobs.set index ⟨.left parked, obtained⟩
      released := store.released ++ [value] }).Perm store.chosen := by
  refine List.perm_iff_count.mpr fun own => ?_
  have gathered := List.perm_iff_count.mp
    (Table.flatMap_set stored ⟨.left parked, obtained⟩ RunningJob.parked) own
  simp only [RunningJob.parked, List.count_append, List.count_cons] at gathered
  simp only [chosen, List.count_append, List.count_cons, List.count_nil]
  omega

end

/-! ### The invariant -/

/-- The cache keeps to its bound and its values have the revision they are stored with; every place
of a value is the only one; and no job inside its block has a value that was chosen. -/
structure Sound (store : ModelStore) : Prop where
  bound : store.cache.entries.size ≤ store.cache.maxEntries
  counted : store.inFlight = store.jobs.countP RunningJob.inside
  idle : store.inFlight = 0 → store.pending = []
  stamped : ∀ modelPath stamps value,
    store.cache.entries.get? modelPath = some (stamps, value) →
      store.built[value]? = some ⟨modelPath, some stamps⟩
  once : store.places.Nodup
  known : ∀ value ∈ store.places, value < store.built.length
  obtained : ∀ job ∈ store.jobs, job.inside = true → ∀ value ∈ job.obtained,
    value < store.built.length ∧ value ∉ store.chosen

namespace Sound

variable {companions : String → List String} {store next : ModelStore}

/-- No job is inside its block when none is in flight. -/
theorem not_inside (sound : Sound store) (idle : store.inFlight = 0) {job : RunningJob}
    (member : job ∈ store.jobs) : job.inside = false := by
  rw [sound.counted] at idle
  exact Bool.not_eq_true _ ▸ List.countP_eq_zero.mp idle job member

/-- What moves values from one place to another, and chooses none but while no job is inside,
keeps the invariant. -/
theorem moved (sound : Sound store) (cache : next.cache = store.cache)
    (built : next.built = store.built) (counted : next.inFlight = next.jobs.countP RunningJob.inside)
    (idle : next.inFlight = 0 → next.pending = []) (places : next.places.Perm store.places)
    (obtained : ∀ job ∈ next.jobs, job.inside = true → ∀ value ∈ job.obtained,
      value < store.built.length ∧ value ∉ next.chosen) : Sound next where
  bound := cache ▸ sound.bound
  counted := counted
  idle := idle
  stamped := cache ▸ built ▸ sound.stamped
  once := places.nodup_iff.mpr sound.once
  known value member := built ▸ sound.known value (places.mem_iff.mp member)
  obtained := built ▸ obtained

/-! ### Lookups -/

/-- What a lookup leaves is sound when the cache it leaves is, the values that leave the cache are
those it no longer has, and the value it returns is one that no place outside the cache has. -/
theorem looked (sound : Sound store) (unlocked : store.locked = none) (caller : Option Nat)
    {cache : ModelCache} {value : Option Nat} {removed dropped fresh : List Nat} {new : List BuiltValue}
    (bound : cache.entries.size ≤ cache.maxEntries)
    (stamped : ∀ modelPath stamps value, cache.entries.get? modelPath = some (stamps, value) →
      (store.built ++ new)[value]? = some ⟨modelPath, some stamps⟩)
    (counted : fresh = List.range' store.built.length new.length)
    (moves : (dropped ++ (removed ++ cache.values)).Perm (fresh ++ store.cache.values))
    (returned : ∀ own, value = some own → own ∈ fresh ++ store.cache.values) :
    Sound { store with
      cache := cache, locked := holding caller removed, jobs := obtain store.jobs caller value
      built := store.built ++ new } := by
  have chosenSame : ModelStore.chosen { store with
      cache := cache, locked := holding caller removed, jobs := obtain store.jobs caller value
      built := store.built ++ new } = store.chosen := by
    simp only [chosen, decided_holding, parked_obtain, unlocked, decided_none]
  -- A new value has no place before.
  have unplaced : ∀ own ∈ fresh, store.built.length ≤ own ∧ own < store.built.length + new.length := by
    intro own member
    rw [counted] at member
    exact List.mem_range'_1.mp member
  have distinct : (fresh ++ store.places).Nodup := by
    refine List.nodup_append.mpr ⟨counted ▸ List.nodup_range', sound.once, ?_⟩
    rintro own member _ placed rfl
    exact absurd (sound.known own placed) (Nat.not_lt.mpr (unplaced own member).1)
  have all := @places_looked store unlocked caller cache value removed dropped fresh
    (store.built ++ new) moves
  have outside : ∀ own ∈ fresh ++ store.cache.values, own ∉ store.chosen := by
    intro own member picked
    have apart := (List.nodup_append.mp distinct).2.2
    rcases List.mem_append.mp member with new | old
    · exact apart own new own (List.mem_append_right _ picked) rfl
    · exact (List.nodup_append.mp sound.once).2.2 own (List.mem_append_left _ old) own picked rfl
  have bounded : ∀ own ∈ fresh ++ store.places, own < (store.built ++ new).length := by
    intro own member
    rw [List.length_append]
    rcases List.mem_append.mp member with new | old
    · exact (unplaced own new).2
    · exact Nat.lt_add_right _ (sound.known own old)
  refine ⟨bound, sound.counted.trans (countP_obtain _ _ _).symm, sound.idle, stamped, ?_,
    fun own member => bounded own (all.mem_iff.mp (List.mem_append_right _ member)), ?_⟩
  · exact (List.nodup_append.mp (all.nodup_iff.mpr distinct)).2.1
  · intro job member inside own mine
    rw [chosenSame]
    obtain ⟨old, oldMember, phase, had⟩ := mem_obtain member
    rcases had own mine with before | now
    · have oldInside : old.inside = true := by
        rwa [RunningJob.inside, phase] at inside
      obtain ⟨known, unpicked⟩ := sound.obtained old oldMember oldInside own before
      exact ⟨List.length_append ▸ Nat.lt_add_right _ known, unpicked⟩
    · have gets := returned own now
      refine ⟨bounded own ?_, outside own gets⟩
      refine (List.mem_append.mp gets).elim (List.mem_append_left _) fun old => ?_
      exact List.mem_append_right _ (List.mem_append_left _ (List.mem_append_left _ old))

variable {value index : Nat} {caller : Option Nat}

/-- What is stored stays stamped when values are built. -/
theorem stamped_append (sound : Sound store) (new : List BuiltValue) {modelPath : String}
    {stamps : List FileStamp} (found : store.cache.entries.get? modelPath = some (stamps, value)) :
    (store.built ++ new)[value]? = some ⟨modelPath, some stamps⟩ := by
  have stored := sound.stamped modelPath stamps value found
  rwa [List.getElem?_append_left (List.getElem?_eq_some_iff.mp stored).1]

theorem lookup (sound : Sound store) (unlocked : store.locked = none) (caller : Option Nat)
    (modelPath : String) (builds : Bool) :
    Sound (store.lookup companions caller modelPath builds).1 := by
  have outcome := ModelCache.looked_getOrBuild store.cache modelPath
    (store.revisionOf companions modelPath) (if builds then some store.built.length else none)
  unfold ModelStore.lookup
  dsimp only
  generalize store.cache.getOrBuild modelPath _ _ = result at outcome ⊢
  have fresh : ∀ own, some store.built.length = some own →
      own ∈ [store.built.length] ++ store.cache.values :=
    fun own same => Option.some.inj same ▸ List.mem_cons_self
  cases outcome with
  | raised raises =>
    have nothing : ∀ own, (none : Option Nat) = some own → own ∈ [] ++ store.cache.values :=
      fun _ impossible => by cases impossible
    have all := sound.looked unlocked caller sound.bound (fun _ _ _ => sound.stamped_append []) rfl
      (List.Perm.refl ([] ++ ([] ++ store.cache.values))) nothing
    simpa using all
  | @hit stamps value reads found =>
    have known : value < store.built.length :=
      (List.getElem?_eq_some_iff.mp (sound.stamped modelPath stamps value found)).1
    have cached : value ∈ store.cache.values :=
      List.mem_map.mpr ⟨(stamps, value), Dict.mem_values_iff.mpr ⟨modelPath, found⟩, rfl⟩
    have bound : (store.cache.put modelPath stamps value).entries.size ≤ store.cache.maxEntries :=
      Nat.le_trans (Nat.le_of_eq (ModelCache.size_put_of_get? found)) sound.bound
    have stamped : ∀ path others other,
        (store.cache.put modelPath stamps value).entries.get? path = some (others, other) →
          (store.built ++ [])[other]? = some ⟨path, some others⟩ := by
      intro path others other stored
      rcases ModelCache.get?_put stored with old | ⟨rfl, same⟩
      · exact sound.stamped_append [] old
      · cases same
        exact sound.stamped_append [] found
    have moves : ([] ++ ([] ++ (store.cache.put modelPath stamps value).values)).Perm
        ([] ++ store.cache.values) := ModelCache.values_put_perm_of_get? found
    have returned : ∀ own, some value = some own → own ∈ [] ++ store.cache.values :=
      fun own same => Option.some.inj same ▸ cached
    simpa [Nat.ne_of_lt known] using sound.looked unlocked caller bound stamped rfl moves returned
  | @uncached value unreadable built =>
    obtain ⟨_, rfl⟩ := eq_of_build built
    have bound : (store.cache.entries.erase modelPath).size ≤ store.cache.maxEntries :=
      Nat.le_trans (Dict.size_erase_le _ _) sound.bound
    have stamped : ∀ path others other,
        (store.cache.entries.erase modelPath).get? path = some (others, other) →
          (store.built ++ [⟨modelPath, store.revisionOf companions modelPath⟩])[other]? =
            some ⟨path, some others⟩ := by
      intro path others other stored
      rw [Dict.get?_erase] at stored
      split at stored
      · cases stored
      · exact sound.stamped_append _ stored
    -- What the cache had for the path is dropped with the new value.
    have moves : ((store.built.length :: (store.cache.entries.get? modelPath).toList.map Prod.snd) ++
        ([] ++ ({ store.cache with
          entries := store.cache.entries.erase modelPath } : ModelCache).values)).Perm
        ([store.built.length] ++ store.cache.values) := by
      rw [List.cons_append, List.cons_append]
      refine List.Perm.cons _ ?_
      cases found : store.cache.entries.get? modelPath with
      | none =>
        rw [Dict.erase_of_not_mem (Dict.get?_eq_none_iff.mp found)]
        exact List.Perm.refl _
      | some stored => exact (ModelCache.values_erase_perm found).symm
    simpa using sound.looked unlocked caller bound stamped rfl moves fresh
  | @kept stamps value reads built =>
    obtain ⟨_, rfl⟩ := eq_of_build built
    have stamped : ∀ path others other,
        (store.cache.keep modelPath stamps store.built.length).1.entries.get? path =
            some (others, other) →
          (store.built ++ [⟨modelPath, store.revisionOf companions modelPath⟩])[other]? =
            some ⟨path, some others⟩ := by
      intro path others other stored
      rcases ModelCache.get?_keep stored with old | ⟨rfl, same⟩
      · exact sound.stamped_append _ old
      · cases same
        rw [reads, List.getElem?_concat_length]
    have moves : ([] ++ ((store.cache.keep modelPath stamps store.built.length).2 ++
        (store.cache.keep modelPath stamps store.built.length).1.values)).Perm
        ([store.built.length] ++ store.cache.values) := ModelCache.values_keep_perm ..
    simpa using sound.looked unlocked caller (ModelCache.size_keep ..) stamped rfl moves fresh

/-! ### The other steps -/

theorem enter (sound : Sound store) :
    Sound { store with
      inFlight := store.inFlight + 1
      jobs := store.jobs ++ [⟨.inside, []⟩] } := by
  refine sound.moved rfl rfl ?_ (fun idle => absurd idle (Nat.succ_ne_zero _)) ?_ ?_
  · simp [sound.counted, RunningJob.inside]
  · rw [places, chosen_enter]
    exact List.Perm.refl _
  · intro job member inside value own
    rw [chosen_enter]
    rcases List.mem_append.mp member with old | new
    · exact sound.obtained job old inside value own
    · rw [List.mem_singleton.mp new] at own
      cases own

theorem close (sound : Sound store) (unlocked : store.locked = none) :
    Sound { store with cache := store.cache.clear.1, locked := holding none store.cache.clear.2 } := by
  have moves : ([] ++ (store.cache.clear.2 ++ store.cache.clear.1.values)).Perm
      ([] ++ store.cache.values) := by
    show (store.cache.values ++ []).Perm store.cache.values
    rw [List.append_nil]
  have bound : store.cache.clear.1.entries.size ≤ store.cache.clear.1.maxEntries := Nat.zero_le _
  have stamped : ∀ modelPath stamps value,
      store.cache.clear.1.entries.get? modelPath = some (stamps, value) →
        (store.built ++ [])[value]? = some ⟨modelPath, some stamps⟩ := fun _ _ _ found => by
    cases found
  have nothing : ∀ own, (none : Option Nat) = some own → own ∈ [] ++ store.cache.values :=
    fun _ impossible => by cases impossible
  simpa [obtain] using sound.looked unlocked none bound stamped rfl moves nothing

theorem handOver (sound : Sound store) {handing : List Nat}
    (locked : store.locked = some ⟨caller, none, value :: handing⟩) :
    Sound (store.handOver caller value handing) := by
  have places := places_handOver locked
  by_cases busy : store.inFlight ≠ 0
  · have parks : store.handOver caller value handing =
        { store with pending := store.pending ++ [value], locked := holding caller handing } :=
      if_pos busy
    rw [parks] at places ⊢
    have chosenSame : ModelStore.chosen { store with
        pending := store.pending ++ [value], locked := holding caller handing } =
        store.chosen := by
      simp only [chosen, decided_holding, locked, decided_some, Option.toList_none]
    refine sound.moved rfl rfl sound.counted (fun idle => absurd idle busy) places ?_
    intro job member inside own mine
    rw [chosenSame]
    exact sound.obtained job member inside own mine
  · -- No job is in flight: whatever was obtained is out of reach.
    have decides : store.handOver caller value handing =
        { store with locked := some ⟨caller, some value, handing⟩ } := if_neg busy
    rw [decides] at places ⊢
    refine sound.moved rfl rfl sound.counted sound.idle places fun job member inside => ?_
    rw [sound.not_inside (not_not.mp busy) member] at inside
    cases inside

theorem release (sound : Sound store) {handing : List Nat}
    (locked : store.locked = some ⟨caller, some value, handing⟩) :
    Sound { store with
      locked := holding caller handing, released := store.released ++ [value] } := by
  refine sound.moved rfl rfl sound.counted sound.idle (places_release locked)
    fun job member inside own mine => ?_
  obtain ⟨known, unpicked⟩ := sound.obtained job member inside own mine
  exact ⟨known, fun picked => unpicked ((chosen_release locked).mem_iff.mp picked)⟩

theorem leave (sound : Sound store) {job : RunningJob} (stored : store.jobs[index]? = some job)
    (inside : job.inside = true) : Sound (store.leave index job) := by
  have remaining : ∀ parked, store.inFlight - 1 =
      (store.jobs.set index { job with phase := .left parked }).countP RunningJob.inside := by
    intro parked
    have left : RunningJob.inside { job with phase := .left parked } = false := rfl
    have moved := Table.countP_set stored { job with phase := .left parked } RunningJob.inside
    rw [inside, left, if_pos rfl, if_neg Bool.false_ne_true, ← sound.counted] at moved
    omega
  refine sound.moved rfl rfl (remaining _) (fun idle => if_pos idle) (places_leave stored inside) ?_
  intro other member otherInside own mine
  rcases List.mem_or_eq_of_mem_set member with old | rfl
  · by_cases last : store.inFlight - 1 = 0
    · -- Nobody is left inside.
      have nobody : (store.leave index job).jobs.countP RunningJob.inside = 0 :=
        (remaining _).symm.trans last
      exact absurd otherInside (List.countP_eq_zero.mp nobody other member)
    · obtain ⟨known, unpicked⟩ := sound.obtained other old otherInside own mine
      exact ⟨known, fun picked =>
        unpicked ((chosen_leave stored inside last).mem_iff.mp picked)⟩
  · cases otherInside

theorem releaseParked (sound : Sound store) {parked obtained : List Nat}
    (stored : store.jobs[index]? = some ⟨.left (value :: parked), obtained⟩) :
    Sound { store with
      jobs := store.jobs.set index ⟨.left parked, obtained⟩
      released := store.released ++ [value] } := by
  have counted := Table.countP_set stored ⟨.left parked, obtained⟩ RunningJob.inside
  have left : ∀ parked, RunningJob.inside ⟨.left parked, obtained⟩ = false := fun _ => rfl
  rw [left, left, if_neg Bool.false_ne_true, Nat.add_zero, Nat.add_zero] at counted
  have chosenPerm := chosen_releaseParked stored
  refine sound.moved rfl rfl (sound.counted.trans counted.symm) sound.idle
    (List.Perm.append_left _ chosenPerm) ?_
  intro other member otherInside own mine
  rcases List.mem_or_eq_of_mem_set member with old | rfl
  · obtain ⟨known, unpicked⟩ := sound.obtained other old otherInside own mine
    exact ⟨known, fun picked => unpicked (chosenPerm.mem_iff.mp picked)⟩
  · cases otherInside

theorem step (sound : Sound store) {action : Action}
    (steps : ModelStore.step companions store action = some next) : Sound next := by
  cases action with
  | replace path stamp =>
    obtain rfl := Option.some.inj steps
    exact { sound with }
  | withdraw path =>
    obtain rfl := Option.some.inj steps
    exact { sound with }
  | enter =>
    obtain rfl := Option.some.inj steps
    exact sound.enter
  | lookup caller modelPath builds =>
    simp only [ModelStore.step] at steps
    split at steps
    · rename_i allowed
      obtain rfl := Option.some.inj steps
      have unlocked := Option.isNone_iff_eq_none.mp (Bool.and_eq_true_iff.mp allowed).1
      exact sound.lookup unlocked caller modelPath builds
    · cases steps
  | close =>
    simp only [ModelStore.step] at steps
    split at steps
    · rename_i unlocked
      obtain rfl := Option.some.inj steps
      exact sound.close (Option.isNone_iff_eq_none.mp unlocked)
    · cases steps
  | handOver =>
    simp only [ModelStore.step] at steps
    split at steps
    · rename_i caller value handing locked
      obtain rfl := Option.some.inj steps
      exact sound.handOver locked
    · cases steps
  | release =>
    simp only [ModelStore.step] at steps
    split at steps
    · rename_i caller value handing locked
      obtain rfl := Option.some.inj steps
      exact sound.release locked
    · cases steps
  | leave index =>
    simp only [ModelStore.step] at steps
    split at steps
    · rename_i job stored
      split at steps
      · rename_i allowed
        obtain rfl := Option.some.inj steps
        rw [free, stored, Option.any_some] at allowed
        exact sound.leave stored (Bool.and_eq_true_iff.mp allowed).1
      · cases steps
    · cases steps
  | releaseParked index =>
    simp only [ModelStore.step] at steps
    split at steps
    · rename_i value parked obtained stored
      obtain rfl := Option.some.inj steps
      exact sound.releaseParked stored
    · cases steps

/-- A lookup returns a value that was built at the revision it read. -/
theorem built_lookup (sound : Sound store) {modelPath : String} {builds : Bool}
    (returns : (store.lookup companions caller modelPath builds).2 = some value) :
    (store.lookup companions caller modelPath builds).1.built[value]? =
      some ⟨modelPath, store.revisionOf companions modelPath⟩ := by
  have outcome := ModelCache.looked_getOrBuild store.cache modelPath
    (store.revisionOf companions modelPath) (if builds then some store.built.length else none)
  unfold ModelStore.lookup at returns ⊢
  dsimp only at returns ⊢
  generalize store.cache.getOrBuild modelPath _ _ = result at outcome returns ⊢
  cases outcome with
  | raised raises => cases returns
  | hit reads found =>
    cases returns
    have stored := sound.stamped _ _ _ found
    have known := (List.getElem?_eq_some_iff.mp stored).1
    rw [if_neg fun same => Nat.ne_of_lt known (Option.some.inj same), stored, reads]
  | uncached unreadable built =>
    cases returns
    obtain ⟨_, rfl⟩ := eq_of_build built
    rw [if_pos rfl, List.getElem?_concat_length]
  | kept reads built =>
    cases returns
    obtain ⟨_, rfl⟩ := eq_of_build built
    rw [if_pos rfl, List.getElem?_concat_length]

end Sound

theorem sound_empty (maxEntries : Nat) (positive : 1 ≤ maxEntries) (files : Dict String FileStamp) :
    Sound (empty maxEntries positive files) where
  bound := Nat.zero_le _
  counted := rfl
  idle _ := rfl
  stamped _ _ _ found := by cases found
  once := List.nodup_nil
  known _ member := by cases member
  obtained _ member := by cases member

/-- A lookup. -/
def Action.looksUp : Action → Bool
  | .lookup _ _ _ => true
  | _ => false

variable {companions : String → List String} {store next : ModelStore}
  {files : Dict String FileStamp}

/-- Only a lookup changes the cache, but for a close, which empties it. -/
theorem cache_step {action : Action} (idle : action.looksUp = false)
    (steps : step companions store action = some next) :
    next.cache = store.cache ∨ next.cache = store.cache.clear.1 := by
  cases action with
  | lookup caller modelPath builds => cases idle
  | replace path stamp =>
    obtain rfl := Option.some.inj steps
    exact Or.inl rfl
  | withdraw path =>
    obtain rfl := Option.some.inj steps
    exact Or.inl rfl
  | enter =>
    obtain rfl := Option.some.inj steps
    exact Or.inl rfl
  | close =>
    simp only [step] at steps
    split at steps
    · obtain rfl := Option.some.inj steps
      exact Or.inr rfl
    · cases steps
  | handOver =>
    simp only [step] at steps
    split at steps
    · obtain rfl := Option.some.inj steps
      unfold handOver
      split <;> exact Or.inl rfl
    · cases steps
  | release =>
    simp only [step] at steps
    split at steps
    · obtain rfl := Option.some.inj steps
      exact Or.inl rfl
    · cases steps
  | leave index =>
    simp only [step] at steps
    split at steps
    · split at steps
      · obtain rfl := Option.some.inj steps
        exact Or.inl rfl
      · cases steps
    · cases steps
  | releaseParked index =>
    simp only [step] at steps
    split at steps
    · obtain rfl := Option.some.inj steps
      exact Or.inl rfl
    · cases steps

theorem maxEntries_step {action : Action} (steps : step companions store action = some next) :
    next.cache.maxEntries = store.cache.maxEntries := by
  cases idle : action.looksUp with
  | false => rcases cache_step idle steps with same | cleared <;> simp [*, ModelCache.clear]
  | true =>
    cases action with
    | lookup caller modelPath builds =>
      simp only [step] at steps
      split at steps
      · obtain rfl := Option.some.inj steps
        have outcome := ModelCache.looked_getOrBuild store.cache modelPath
          (store.revisionOf companions modelPath)
          (if builds then some store.built.length else none)
        unfold lookup
        dsimp only
        generalize store.cache.getOrBuild modelPath _ _ = result at outcome ⊢
        cases outcome <;> rfl
      · cases steps
    | _ => cases idle

theorem sound_of_reachable {maxEntries : Nat} {positive : 1 ≤ maxEntries}
    (reachable : Machine.Reachable (step companions) (empty maxEntries positive files) store) :
    Sound store ∧ store.cache.maxEntries = maxEntries :=
  reachable.invariant (fun state => Sound state ∧ state.cache.maxEntries = maxEntries)
    (fun _ _ _ invariant steps =>
      ⟨invariant.1.step steps, (maxEntries_step steps).trans invariant.2⟩)
    ⟨sound_empty maxEntries positive files, rfl⟩

/-- In every state any order of steps reaches, no value is released that a job inside its block
obtained, no value is released twice, a lookup returns a value that was built at the revision it
reads, and the cache keeps to its bound. -/
theorem models_intact {companions : String → List String} {maxEntries : Nat}
    {positive : 1 ≤ maxEntries} {files : Dict String FileStamp} {store : ModelStore}
    (reachable : Machine.Reachable (step companions) (empty maxEntries positive files) store) :
    (∀ job ∈ store.jobs, job.inside = true → ∀ value ∈ job.obtained, value ∉ store.released) ∧
      store.released.Nodup ∧
      (∀ (caller : Option Nat) (modelPath : String) (builds : Bool) (value : Nat),
        (store.lookup companions caller modelPath builds).2 = some value →
          (store.lookup companions caller modelPath builds).1.built[value]? =
            some ⟨modelPath, store.revisionOf companions modelPath⟩) ∧
      store.cache.entries.size ≤ maxEntries := by
  obtain ⟨sound, limit⟩ := sound_of_reachable reachable
  refine ⟨fun job member inside value own released => ?_, ?_,
    fun caller modelPath builds value returns => sound.built_lookup returns,
    limit ▸ sound.bound⟩
  · have unpicked := (sound.obtained job member inside value own).2
    exact unpicked (List.mem_append_right _ (List.mem_append_right _ released))
  · have chosen := (List.nodup_append.mp sound.once).2.1
    exact (List.nodup_append.mp (List.nodup_append.mp chosen).2.1).2.1

/-- The graph of a network comes with its weights. -/
def withWeights (modelPath : String) : List String := [modelPath ++ ".bin"]

/-- Two models that can be read. -/
def twoModels : Dict String FileStamp :=
  ⟨[("a", ⟨1, 10⟩), ("a.bin", ⟨1, 100⟩), ("b", ⟨2, 20⟩), ("b.bin", ⟨2, 200⟩)], by decide⟩

/-- A job uses a model; another caller evicts it, the store is closed, and a second job enters
before the first one leaves. -/
def evictingActions : List Action :=
  [.enter, .lookup (some 0) "a" true, .lookup none "b" true, .handOver, .close, .handOver, .enter,
    .leave 0, .replace "a" ⟨3, 10⟩, .lookup (some 1) "a" true, .leave 1, .releaseParked 1,
    .releaseParked 1]

/-- Both models were parked until the second job had left, and its own is still there. -/
theorem models_intact_evicting :
    ∃ store, Machine.run (step withWeights) (empty 1 (by decide) twoModels) evictingActions =
        some store ∧
      store.released = [0, 1] ∧ store.released.Nodup ∧ store.cache.entries.size ≤ 1 := by
  have outcome : (Machine.run (step withWeights) (empty 1 (by decide) twoModels)
      evictingActions).map (fun store => store.released) = some [0, 1] := by decide +kernel
  obtain ⟨store, runs, released⟩ := Option.map_eq_some_iff.mp outcome
  obtain ⟨_, once, _, bound⟩ := models_intact ⟨evictingActions, runs⟩
  exact ⟨store, runs, released, once, bound⟩

/-! ### Values without a place -/

/-- A lookup that builds can read the revision. -/
def readable (companions : String → List String) (store : ModelStore) : Action → Bool
  | .lookup _ modelPath builds => (store.revisionOf companions modelPath).isSome || !builds
  | _ => true

/-- Every value that was built has a place. -/
def Complete (store : ModelStore) : Prop :=
  ∀ value, value < store.built.length → value ∈ store.places

namespace Complete

variable {companions : String → List String} {store next : ModelStore}

theorem of_perm (complete : Complete store) (built : next.built = store.built)
    (places : next.places.Perm store.places) : Complete next :=
  fun value known => places.mem_iff.mpr (complete value (built ▸ known))

theorem lookup (complete : Complete store) (sound : Sound store) (unlocked : store.locked = none)
    {caller : Option Nat} {modelPath : String} {builds : Bool}
    (reads : readable companions store (.lookup caller modelPath builds) = true) :
    Complete (store.lookup companions caller modelPath builds).1 := by
  have outcome := ModelCache.looked_getOrBuild store.cache modelPath
    (store.revisionOf companions modelPath) (if builds then some store.built.length else none)
  simp only [readable, Bool.or_eq_true, Bool.not_eq_true'] at reads
  unfold ModelStore.lookup
  dsimp only
  generalize store.cache.getOrBuild modelPath _ _ = result at outcome ⊢
  cases outcome with
  | raised raises =>
    have nothing : none ≠ some store.built.length := (Option.some_ne_none _).symm
    rw [if_neg nothing]
    exact complete.of_perm rfl
      (@places_looked store unlocked caller store.cache none [] [] [] _ (List.Perm.refl _))
  | hit stamps found =>
    have known := (List.getElem?_eq_some_iff.mp (sound.stamped _ _ _ found)).1
    refine complete.of_perm (if_neg fun same => Nat.ne_of_lt known (Option.some.inj same)) ?_
    exact @places_looked store unlocked caller _ _ [] [] [] _
      (ModelCache.values_put_perm_of_get? found)
  | uncached unreadable built =>
    rw [unreadable, (eq_of_build built).1] at reads
    exact absurd reads (by decide)
  | @kept stamps value _ built =>
    obtain ⟨_, rfl⟩ := eq_of_build built
    have places := @places_looked store unlocked caller _ (some store.built.length) _ []
      [store.built.length] (store.built ++ [⟨modelPath, store.revisionOf companions modelPath⟩])
      (ModelCache.values_keep_perm store.cache modelPath stamps store.built.length)
    rw [if_pos rfl]
    intro own known
    rw [List.length_append, List.length_singleton] at known
    refine places.mem_iff.mpr ?_
    rcases Nat.lt_succ_iff_lt_or_eq.mp known with old | rfl
    · exact List.mem_cons_of_mem _ (complete own old)
    · exact List.mem_cons_self

theorem step (complete : Complete store) (sound : Sound store) {action : Action}
    (reads : readable companions store action = true)
    (steps : ModelStore.step companions store action = some next) : Complete next := by
  cases action with
  | replace path stamp =>
    obtain rfl := Option.some.inj steps
    exact complete
  | withdraw path =>
    obtain rfl := Option.some.inj steps
    exact complete
  | enter =>
    obtain rfl := Option.some.inj steps
    refine complete.of_perm rfl (List.Perm.of_eq ?_)
    rw [places, chosen_enter, places]
    rfl
  | lookup caller modelPath builds =>
    simp only [ModelStore.step] at steps
    split at steps
    · rename_i allowed
      obtain rfl := Option.some.inj steps
      have unlocked := Option.isNone_iff_eq_none.mp (Bool.and_eq_true_iff.mp allowed).1
      exact complete.lookup sound unlocked reads
    · cases steps
  | close =>
    simp only [ModelStore.step] at steps
    split at steps
    · rename_i unlocked
      obtain rfl := Option.some.inj steps
      refine complete.of_perm rfl ?_
      exact @places_looked store (Option.isNone_iff_eq_none.mp unlocked) none store.cache.clear.1
        none store.cache.clear.2 [] [] store.built (List.Perm.of_eq (List.append_nil _))
    · cases steps
  | handOver =>
    simp only [ModelStore.step] at steps
    split at steps
    · rename_i caller value handing locked
      obtain rfl := Option.some.inj steps
      refine complete.of_perm ?_ (places_handOver locked)
      unfold handOver
      split <;> rfl
    · cases steps
  | release =>
    simp only [ModelStore.step] at steps
    split at steps
    · rename_i caller value handing locked
      obtain rfl := Option.some.inj steps
      exact complete.of_perm rfl (places_release locked)
    · cases steps
  | leave index =>
    simp only [ModelStore.step] at steps
    split at steps
    · rename_i job stored
      split at steps
      · rename_i allowed
        obtain rfl := Option.some.inj steps
        rw [free, stored, Option.any_some] at allowed
        exact complete.of_perm rfl (places_leave stored (Bool.and_eq_true_iff.mp allowed).1)
      · cases steps
    · cases steps
  | releaseParked index =>
    simp only [ModelStore.step] at steps
    split at steps
    · rename_i value parked obtained stored
      obtain rfl := Option.some.inj steps
      exact complete.of_perm rfl (List.Perm.append_left _ (chosen_releaseParked stored))
    · cases steps

end Complete

/-- The values that are parked, or on their way from the cache to the releaser. -/
def parked (store : ModelStore) : List Nat :=
  CacheSection.handed store.locked ++ store.pending ++ CacheSection.decided store.locked ++
    store.jobs.flatMap RunningJob.parked

/-- Nothing is under way: the cache lock is free, and every job has left and released what it
took. -/
def atRest (store : ModelStore) : Bool :=
  store.locked.isNone && store.jobs.all fun job => decide (job.phase = .left [])

theorem complete_of_run {maxEntries : Nat} {positive : 1 ≤ maxEntries} {actions : List Action}
    (runs : Machine.run (step companions) (empty maxEntries positive files) actions = some store)
    (reads : Machine.Throughout (step companions)
      (fun before action => readable companions before action = true)
      (empty maxEntries positive files) actions) : Sound store ∧ Complete store :=
  Machine.invariant_run_throughout (fun state => Sound state ∧ Complete state)
    (fun _ _ _ invariant reads steps =>
      ⟨invariant.1.step steps, invariant.2.step invariant.1 reads steps⟩)
    ⟨sound_empty maxEntries positive files, fun _ impossible => absurd impossible (Nat.not_lt_zero _)⟩
    reads runs

/-- A cache that was emptied stays empty until something is looked up. -/
theorem entries_of_run {final : ModelStore} {actions : List Action}
    (emptied : store.cache.entries = Dict.empty) (idle : ∀ action ∈ actions, action.looksUp = false)
    (runs : Machine.run (step companions) store actions = some final) :
    final.cache.entries = Dict.empty := by
  refine Machine.invariant_run_throughout (fun state => state.cache.entries = Dict.empty)
    (fun state action next kept quiet steps => ?_) emptied
    (Machine.throughout_of_forall idle) runs
  rcases cache_step quiet steps with same | cleared
  · rw [same]
    exact kept
  · rw [cleared]
    rfl

/-- In a run whose lookups can read the revision whenever they build, every value that was built is
cached, held by a job inside its block, parked or released. When a close is followed by no
lookup and everybody has left, each of them was released once. -/
theorem accounted_of_readable {companions : String → List String} {maxEntries : Nat}
    {positive : 1 ≤ maxEntries} {files : Dict String FileStamp} {actions : List Action}
    {store : ModelStore}
    (runs : Machine.run (step companions) (empty maxEntries positive files) actions = some store)
    (reads : Machine.Throughout (step companions)
      (fun before action => readable companions before action = true)
      (empty maxEntries positive files) actions) :
    (∀ value, value < store.built.length →
      value ∈ store.cache.values ∨ (∃ job ∈ store.jobs, job.inside = true ∧ value ∈ job.obtained) ∨
        value ∈ store.parked ∨ value ∈ store.released) ∧
      ∀ before after, actions = before ++ .close :: after →
        (∀ action ∈ after, action.looksUp = false) → store.atRest = true →
          ∀ value, value < store.built.length → store.released.count value = 1 := by
  obtain ⟨sound, complete⟩ := complete_of_run runs reads
  have placed : ∀ value, value < store.built.length →
      value ∈ store.cache.values ∨ value ∈ store.parked ∨ value ∈ store.released := by
    intro value known
    have place := complete value known
    simp only [places, kept, chosen, parked, List.mem_append] at place ⊢
    tauto
  refine ⟨fun value known => ?_, fun before after split quiet rest value known => ?_⟩
  · exact (placed value known).imp_right Or.inr
  · simp only [atRest, Bool.and_eq_true, Option.isNone_iff_eq_none, List.all_eq_true,
      decide_eq_true_eq] at rest
    obtain ⟨unlocked, left⟩ := rest
    have emptied : store.cache.entries = Dict.empty := by
      rw [split, Machine.run_append] at runs
      obtain ⟨closing, _, rest⟩ := Option.bind_eq_some_iff.mp runs
      obtain ⟨closed, closes, later⟩ := Machine.run_cons_eq_some.mp rest
      refine entries_of_run ?_ quiet later
      simp only [step] at closes
      split at closes
      · obtain rfl := Option.some.inj closes
        rfl
      · cases closes
    have uncached : store.cache.values = [] := by
      rw [ModelCache.values, emptied]
      rfl
    have nothing : store.jobs.flatMap RunningJob.parked = [] := by
      refine List.flatMap_eq_nil_iff.mpr fun job member => ?_
      rw [RunningJob.parked, left job member]
    have idle : store.inFlight = 0 := by
      rw [sound.counted, List.countP_eq_zero]
      intro job member
      rw [RunningJob.inside, left job member]
      decide
    have unparked : store.parked = [] := by
      rw [parked, unlocked, sound.idle idle, nothing]
      rfl
    have released : value ∈ store.released := by
      have place := placed value known
      rw [uncached, unparked] at place
      simpa using place
    have once : store.released.Nodup := by
      have chosen := (List.nodup_append.mp sound.once).2.1
      exact (List.nodup_append.mp (List.nodup_append.mp chosen).2.1).2.1
    exact List.count_eq_one_of_mem once released

/-- The model is used, replaced and used again; it is evicted by another caller, and the store is
closed. -/
theorem accounted_of_readable_closed :
    ∃ store, Machine.run (step withWeights) (empty 1 (by decide) twoModels)
        [.enter, .lookup (some 0) "a" true, .replace "a" ⟨3, 10⟩, .lookup (some 0) "a" true,
          .handOver, .lookup none "b" true, .handOver, .close, .handOver, .leave 0,
          .releaseParked 0, .releaseParked 0, .releaseParked 0] = some store ∧
      store.built.length = 3 ∧
      ∀ value, value < store.built.length → store.released.count value = 1 := by
  have outcome : (Machine.run (step withWeights) (empty 1 (by decide) twoModels)
      [.enter, .lookup (some 0) "a" true, .replace "a" ⟨3, 10⟩, .lookup (some 0) "a" true,
        .handOver, .lookup none "b" true, .handOver, .close, .handOver, .leave 0,
        .releaseParked 0, .releaseParked 0, .releaseParked 0]).map
        (fun store => (store.built.length, store.atRest)) = some (3, true) := by decide +kernel
  obtain ⟨store, runs, facts⟩ := Option.map_eq_some_iff.mp outcome
  obtain ⟨count, rest⟩ := Prod.mk.inj facts
  have accounted := accounted_of_readable runs (by decide +kernel)
  exact ⟨store, runs, count, accounted.2
    [.enter, .lookup (some 0) "a" true, .replace "a" ⟨3, 10⟩, .lookup (some 0) "a" true, .handOver,
      .lookup none "b" true, .handOver]
    [.handOver, .leave 0, .releaseParked 0, .releaseParked 0, .releaseParked 0] rfl
    (by decide) rest⟩

/-- A job uses a model whose weights cannot be read while it is looked up, and leaves. -/
theorem not_accounted :
    ¬ ∀ (companions : String → List String) (maxEntries : Nat) (positive : 1 ≤ maxEntries)
      (files : Dict String FileStamp) (actions : List Action) (store : ModelStore),
      Machine.run (step companions) (empty maxEntries positive files) actions = some store →
      ∀ value, value < store.built.length →
        value ∈ store.cache.values ∨
          (∃ job ∈ store.jobs, job.inside = true ∧ value ∈ job.obtained) ∨
            value ∈ store.parked ∨ value ∈ store.released := by
  intro claim
  have outcome : (Machine.run (step withWeights) (empty 1 (by decide) twoModels)
      [.withdraw "a.bin", .enter, .lookup (some 0) "a" true, .leave 0]).map
        (fun store => (store.built.length, store.cache.values, store.jobs, store.parked,
          store.released)) = some (1, [], [⟨.left [], [0]⟩], [], []) := by decide +kernel
  obtain ⟨store, runs, facts⟩ := Option.map_eq_some_iff.mp outcome
  simp only [Prod.mk.injEq] at facts
  obtain ⟨count, cached, jobs, parked, released⟩ := facts
  have place := claim _ _ _ _ _ store runs 0 (by rw [count]; decide)
  rw [cached, jobs, parked, released] at place
  revert place
  decide

end ModelStore

end Omnitensor
