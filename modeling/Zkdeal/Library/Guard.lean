/-
This file is about validators: sequences of refusals in `Except`, written as the
code runs them, and read back as the conjunction of the conditions a success
establishes.

Every lemma is an equivalence with `.ok`, so peeling a validator apart is a chain
of `obtain` steps and never an unfolding. A loop is a monadic fold; what it
establishes is an invariant of the items it has consumed, proved once in
`foldlM_invariant`.
-/

import Mathlib

namespace Guard

section Sequences

variable {Failure OtherFailure Value Result : Type}

/-- Refuse with a failure when a condition holds, and go on otherwise. -/
def refuse (condition : Prop) [Decidable condition] (failure : Failure) : Except Failure Unit :=
  if condition then .error failure else .ok ()

@[simp]
theorem refuse_eq_ok {condition : Prop} [Decidable condition] {failure : Failure} {done : Unit} :
    refuse condition failure = .ok done ↔ ¬ condition := by
  unfold refuse
  split <;> simp_all

/-- Run a check only under a condition. -/
def checkWhen (condition : Prop) [Decidable condition] (check : Except Failure Unit) :
    Except Failure Unit :=
  if condition then check else .ok ()

@[simp]
theorem checkWhen_eq_ok {condition : Prop} [Decidable condition] {check : Except Failure Unit}
    {done : Unit} :
    checkWhen condition check = .ok done ↔ (condition → check = .ok ()) := by
  unfold checkWhen
  split <;> simp_all

/-- Take a value out of an option, refusing when there is none. -/
def orRefuse (candidate : Option Value) (failure : Failure) : Except Failure Value :=
  match candidate with
  | some value => .ok value
  | none => .error failure

@[simp]
theorem orRefuse_eq_ok {candidate : Option Value} {failure : Failure} {value : Value} :
    orRefuse candidate failure = .ok value ↔ candidate = some value := by
  cases candidate <;> simp [orRefuse]

@[simp]
theorem bind_eq_ok {first : Except Failure Value} {next : Value → Except Failure Result}
    {result : Result} :
    (first >>= next) = .ok result ↔ ∃ value, first = .ok value ∧ next value = .ok result := by
  cases first <;> simp [bind, Except.bind]

@[simp]
theorem pure_eq_ok {value result : Value} :
    (pure value : Except Failure Value) = .ok result ↔ value = result := by
  simp [pure, Except.pure]

@[simp]
theorem mapError_eq_ok {first : Except Failure Value} {rename : Failure → OtherFailure}
    {value : Value} : first.mapError rename = .ok value ↔ first = .ok value := by
  cases first <;> simp [Except.mapError]

@[simp]
theorem map_eq_ok {first : Except Failure Value} {transform : Value → Result} {result : Result} :
    first.map transform = .ok result ↔ ∃ value, first = .ok value ∧ transform value = result := by
  cases first <;> simp [Except.map]

/-- A success that can be seen through its value is a success with that value. -/
theorem toOption_map_eq_some {first : Except Failure Value} {view : Value → Result}
    {result : Result} (seen : first.toOption.map view = some result) :
    ∃ value, first = .ok value ∧ view value = result := by
  cases first with
  | error failure => cases seen
  | ok value => exact ⟨value, rfl, Option.some.inj seen⟩

theorem exists_eq_ok_of_isSome {first : Except Failure Value}
    (seen : first.toOption.isSome = true) : ∃ value, first = .ok value := by
  cases first with
  | error failure => cases seen
  | ok value => exact ⟨value, rfl⟩

/-- A refusal in front of a validator is a conjunct of what it establishes. -/
theorem refuse_bind_eq_ok {condition : Prop} [Decidable condition] {failure : Failure}
    {next : Unit → Except Failure Result} {result : Result} :
    (refuse condition failure >>= next) = .ok result ↔
      ¬ condition ∧ next () = .ok result := by
  rw [bind_eq_ok]
  constructor
  · rintro ⟨⟨⟩, holds, rest⟩
    exact ⟨refuse_eq_ok.mp holds, rest⟩
  · rintro ⟨holds, rest⟩
    exact ⟨(), refuse_eq_ok.mpr holds, rest⟩

theorem toOption_eq_some {first : Except Failure Value} {value : Value} :
    first.toOption = some value ↔ first = .ok value := by
  cases first <;> simp [Except.toOption]

/-! Two validators are compared step by step. -/

theorem refuse_congr {condition other : Prop} [Decidable condition] [Decidable other]
    {failure : Failure} (same : condition ↔ other) :
    refuse condition failure = refuse other failure :=
  if_congr same rfl rfl

/-- A step that passes is dropped. -/
theorem bind_of_eq_ok {first : Except Failure Value} {next : Value → Except Failure Result}
    {value : Value} {rest : Except Failure Result} (passes : first = .ok value)
    (same : next value = rest) : first >>= next = rest := by
  rw [passes]
  exact same

theorem refuse_bind_of_not {condition : Prop} [Decidable condition] {failure : Failure}
    {next : Unit → Except Failure Result} {rest : Except Failure Result}
    (passes : ¬ condition) (same : next () = rest) : refuse condition failure >>= next = rest :=
  bind_of_eq_ok (refuse_eq_ok.mpr passes) same

/-- A check behind which every other one passes. -/
theorem bind_eq_self {first : Except Failure Unit} {next : Unit → Except Failure Unit}
    (passes : next () = .ok ()) : first >>= next = first := by
  cases first with
  | error failure => rfl
  | ok done => exact passes

end Sequences

/-! ### Loops -/

section Loops

variable {Failure Item State : Type}

@[simp]
theorem foldlM_nil_eq_ok {step : State → Item → Except Failure State} {start finish : State} :
    [].foldlM step start = .ok finish ↔ start = finish := by
  rw [List.foldlM_nil, pure_eq_ok]

@[simp]
theorem foldlM_cons_eq_ok {step : State → Item → Except Failure State} {item : Item}
    {rest : List Item} {start finish : State} :
    (item :: rest).foldlM step start = .ok finish ↔
      ∃ next, step start item = .ok next ∧ rest.foldlM step next = .ok finish := by
  rw [List.foldlM_cons, bind_eq_ok]

/-- What a loop establishes: an invariant of the items consumed so far that holds of no
items at the start and is carried over every successful step holds of all items at the
end. -/
theorem foldlM_invariant {step : State → Item → Except Failure State}
    (invariant : List Item → State → Prop) {items : List Item} {start finish : State}
    (ran : items.foldlM step start = .ok finish) (begins : invariant [] start)
    (continues : ∀ consumed item before after, invariant consumed before →
      step before item = .ok after → invariant (consumed ++ [item]) after) :
    invariant items finish := by
  have general : ∀ (rest consumed : List Item) (state : State), invariant consumed state →
      rest.foldlM step state = .ok finish → invariant (consumed ++ rest) finish := by
    intro rest
    induction rest with
    | nil =>
      intro consumed state holds run
      rw [List.append_nil, ← foldlM_nil_eq_ok.mp run]
      exact holds
    | cons item rest inductionHypothesis =>
      intro consumed state holds run
      obtain ⟨next, stepped, remaining⟩ := foldlM_cons_eq_ok.mp run
      have extended := inductionHypothesis (consumed ++ [item]) next
        (continues consumed item state next holds stepped) remaining
      rwa [List.append_assoc, List.singleton_append] at extended
  exact general items [] start begins ran

/-- The same for a loop that stops without a reason. -/
theorem foldlM_some_invariant {step : State → Item → Option State}
    (invariant : List Item → State → Prop) {items : List Item} {start finish : State}
    (ran : items.foldlM step start = some finish) (begins : invariant [] start)
    (continues : ∀ consumed item before after, invariant consumed before →
      step before item = some after → invariant (consumed ++ [item]) after) :
    invariant items finish := by
  have general : ∀ (rest consumed : List Item) (state : State), invariant consumed state →
      rest.foldlM step state = some finish → invariant (consumed ++ rest) finish := by
    intro rest
    induction rest with
    | nil =>
      intro consumed state holds run
      rw [List.append_nil, ← Option.some.inj run]
      exact holds
    | cons item rest inductionHypothesis =>
      intro consumed state holds run
      rw [List.foldlM_cons] at run
      obtain ⟨next, stepped, remaining⟩ := Option.bind_eq_some_iff.mp run
      have extended := inductionHypothesis (consumed ++ [item]) next
        (continues consumed item state next holds stepped) remaining
      rwa [List.append_assoc, List.singleton_append] at extended
  exact general items [] start begins ran

/-- A property every successful step preserves, whatever the item, survives the loop. -/
theorem foldlM_preserves {step : State → Item → Except Failure State} (property : State → Prop)
    {items : List Item} {start finish : State} (ran : items.foldlM step start = .ok finish)
    (begins : property start)
    (continues : ∀ item ∈ items, ∀ before after, property before →
      step before item = .ok after → property after) : property finish := by
  induction items generalizing start with
  | nil => exact foldlM_nil_eq_ok.mp ran ▸ begins
  | cons item rest inductionHypothesis =>
    obtain ⟨next, stepped, remaining⟩ := foldlM_cons_eq_ok.mp ran
    exact inductionHypothesis remaining
      (continues item List.mem_cons_self start next begins stepped)
      fun other member => continues other (List.mem_cons_of_mem _ member)

/-- A loop runs to its end when, whatever has been consumed, the next step succeeds and
restores the invariant. -/
theorem foldlM_exists_eq_ok {step : State → Item → Except Failure State}
    (invariant : List Item → State → Prop) {items : List Item} {start : State}
    (base : invariant [] start)
    (steps : ∀ consumed item rest state, consumed ++ item :: rest = items →
      invariant consumed state →
      ∃ next, step state item = .ok next ∧ invariant (consumed ++ [item]) next) :
    ∃ finish, items.foldlM step start = .ok finish ∧ invariant items finish := by
  suffices general : ∀ (rest consumed : List Item) (state : State), consumed ++ rest = items →
      invariant consumed state →
      ∃ finish, rest.foldlM step state = .ok finish ∧ invariant items finish from
    general items [] start rfl base
  intro rest
  induction rest with
  | nil =>
    intro consumed state complete holds
    rw [List.append_nil] at complete
    exact ⟨state, rfl, complete ▸ holds⟩
  | cons item rest inductionHypothesis =>
    intro consumed state complete holds
    obtain ⟨next, stepped, kept⟩ := steps consumed item rest state complete holds
    obtain ⟨finish, ran, reached⟩ := inductionHypothesis (consumed ++ [item]) next
      (by rw [← complete, List.append_assoc, List.singleton_append]) kept
    exact ⟨finish, foldlM_cons_eq_ok.mpr ⟨next, stepped, ran⟩, reached⟩

/-- What a successful step says about its item holds of every item of the loop. -/
theorem foldlM_forall {step : State → Item → Except Failure State} {property : Item → Prop}
    {items : List Item} {start finish : State} (ran : items.foldlM step start = .ok finish)
    (checked : ∀ item before after, step before item = .ok after → property item) :
    ∀ item ∈ items, property item := by
  refine foldlM_invariant (fun consumed _ => ∀ item ∈ consumed, property item) ran
    (fun item member => absurd member List.not_mem_nil) ?_
  intro consumed item before after holds stepped other member
  rcases List.mem_append.mp member with member | member
  · exact holds other member
  · rw [List.mem_singleton.mp member]
    exact checked item before after stepped

/-- Run a check on every item in order, stopping at the first refusal. -/
def forEach (items : List Item) (check : Item → Except Failure Unit) : Except Failure Unit :=
  items.foldlM (fun _ item => check item) ()

/-- A loop of pure checks succeeds exactly when every check does. -/
theorem forEach_eq_ok {check : Item → Except Failure Unit} {items : List Item} {done : Unit} :
    forEach items check = .ok done ↔ ∀ item ∈ items, check item = .ok () := by
  unfold forEach
  induction items with
  | nil => simp
  | cons item rest inductionHypothesis =>
    rw [foldlM_cons_eq_ok]
    constructor
    · rintro ⟨⟨⟩, first, remaining⟩ other member
      rcases List.mem_cons.mp member with rfl | tail
      · exact first
      · exact inductionHypothesis.mp remaining other tail
    · intro every
      exact ⟨(), every item List.mem_cons_self,
        inductionHypothesis.mpr fun other member => every other (List.mem_cons_of_mem _ member)⟩

/-- A loop of refusals succeeds exactly when no item is refused. -/
theorem forEach_refuse_eq_ok {condition : Item → Prop} [DecidablePred condition]
    {failure : Item → Failure} {items : List Item} {done : Unit} :
    (forEach items fun item => refuse (condition item) (failure item)) = .ok done ↔
      ∀ item ∈ items, ¬ condition item := by
  rw [forEach_eq_ok]
  exact forall₂_congr fun item _ => refuse_eq_ok

/-- A loop that maps every item succeeds with a list exactly when item by item the map
succeeds with the corresponding element. -/
theorem mapM_eq_ok {Output : Type} {convert : Item → Except Failure Output} {items : List Item}
    {outputs : List Output} :
    items.mapM convert = .ok outputs ↔
      List.Forall₂ (fun item output => convert item = .ok output) items outputs := by
  induction items generalizing outputs with
  | nil =>
    rw [List.mapM_nil, pure_eq_ok, List.forall₂_nil_left_iff, eq_comm]
  | cons item rest inductionHypothesis =>
    rw [List.mapM_cons, bind_eq_ok, List.forall₂_cons_left_iff]
    constructor
    · rintro ⟨output, converted, tail⟩
      obtain ⟨remaining, mapped, assembled⟩ := bind_eq_ok.mp tail
      exact ⟨output, remaining, converted, inductionHypothesis.mp mapped,
        (pure_eq_ok.mp assembled).symm⟩
    · rintro ⟨output, remaining, converted, mapped, rfl⟩
      exact ⟨output, converted, bind_eq_ok.mpr
        ⟨remaining, inductionHypothesis.mpr mapped, pure_eq_ok.mpr rfl⟩⟩

/-- A conversion that succeeds on every item maps the list. -/
theorem mapM_eq_ok_map {Output : Type} {convert : Item → Except Failure Output}
    {convertsTo : Item → Output} {items : List Item}
    (converts : ∀ item ∈ items, convert item = .ok (convertsTo item)) :
    items.mapM convert = .ok (items.map convertsTo) := by
  rw [mapM_eq_ok, List.forall₂_map_right_iff, List.forall₂_same]
  exact converts

/-- A mapping loop succeeds exactly when every item can be mapped. -/
theorem exists_mapM_eq_ok {Output : Type} {convert : Item → Except Failure Output}
    {items : List Item} :
    (∃ outputs, items.mapM convert = .ok outputs) ↔
      ∀ item ∈ items, ∃ output, convert item = .ok output := by
  simp only [mapM_eq_ok]
  induction items with
  | nil => simp
  | cons item rest inductionHypothesis =>
    simp only [List.forall₂_cons_left_iff, List.forall_mem_cons, ← inductionHypothesis]
    constructor
    · rintro ⟨outputs, output, remaining, converted, mapped, rfl⟩
      exact ⟨⟨output, converted⟩, remaining, mapped⟩
    · rintro ⟨⟨output, converted⟩, remaining, mapped⟩
      exact ⟨output :: remaining, output, remaining, converted, mapped, rfl⟩

/-- Two conversions of one list with the same outputs agree on every item. -/
theorem exists_eq_ok_of_mapM_eq {Output : Type} {convert other : Item → Except Failure Output}
    {items : List Item} {outputs : List Output} (ran : items.mapM convert = .ok outputs)
    (otherRan : items.mapM other = .ok outputs) {item : Item} (member : item ∈ items) :
    ∃ output, convert item = .ok output ∧ other item = .ok output := by
  have pairwise := mapM_eq_ok.mp ran
  have otherPairwise := mapM_eq_ok.mp otherRan
  clear ran otherRan
  induction pairwise with
  | nil => cases member
  | cons head tail inductionHypothesis =>
    obtain ⟨otherHead, otherTail⟩ := List.forall₂_cons.mp otherPairwise
    rcases List.mem_cons.mp member with rfl | later
    · exact ⟨_, head, otherHead⟩
    · exact inductionHypothesis later otherTail

/-- What a mapping loop puts out, seen through views that agree item by item. -/
theorem flatMap_eq_of_mapM_eq_ok {Output Part : Type} {convert : Item → Except Failure Output}
    {items : List Item} {outputs : List Output} (ran : items.mapM convert = .ok outputs)
    (parts : Output → List Part) (expected : Item → List Part)
    (agree : ∀ item output, convert item = .ok output → parts output = expected item) :
    outputs.flatMap parts = items.flatMap expected := by
  have pairwise := mapM_eq_ok.mp ran
  clear ran
  induction pairwise with
  | nil => rfl
  | cons head tail inductionHypothesis =>
    rw [List.flatMap_cons, List.flatMap_cons, agree _ _ head, inductionHypothesis]

/-- An item of a list has a partner in a list that is related to it item by item. -/
theorem exists_of_forall₂_of_mem {First Second : Type} {Related : First → Second → Prop}
    {firsts : List First} {seconds : List Second} (pairwise : List.Forall₂ Related firsts seconds)
    {first : First} (member : first ∈ firsts) : ∃ second ∈ seconds, Related first second := by
  induction pairwise with
  | nil => exact absurd member List.not_mem_nil
  | cons head tail inductionHypothesis =>
    rcases List.mem_cons.mp member with rfl | member
    · exact ⟨_, List.mem_cons_self, head⟩
    · obtain ⟨second, among, related⟩ := inductionHypothesis member
      exact ⟨second, List.mem_cons_of_mem _ among, related⟩

/-- Everything a mapping loop puts out was put out for some item. -/
theorem mem_of_mapM_eq_ok {Output : Type} {convert : Item → Except Failure Output}
    {items : List Item} {outputs : List Output} (ran : items.mapM convert = .ok outputs)
    {output : Output} (member : output ∈ outputs) :
    ∃ item ∈ items, convert item = .ok output :=
  exists_of_forall₂_of_mem (mapM_eq_ok.mp ran).flip member

/-- Everything a mapping loop goes through is put out. -/
theorem exists_mem_of_mapM_eq_ok {Output : Type} {convert : Item → Except Failure Output}
    {items : List Item} {outputs : List Output} (ran : items.mapM convert = .ok outputs)
    {item : Item} (member : item ∈ items) : ∃ output ∈ outputs, convert item = .ok output :=
  exists_of_forall₂_of_mem (mapM_eq_ok.mp ran) member

/-- Items that were written in one order and are read in another. -/
theorem mapM_of_perm {Entry Output : Type} {read : Entry → Except Failure Output}
    {write : Item → Entry} {value : Item → Output} {items : List Item} {entries : List Entry}
    (shuffled : entries.Perm (items.map write))
    (reads : ∀ item ∈ items, read (write item) = .ok (value item)) :
    ∃ outputs, entries.mapM read = .ok outputs ∧ outputs.Perm (items.map value) := by
  have inOrder : List.Forall₂ (fun entry output => read entry = .ok output) (items.map write)
      (items.map value) := by
    rw [List.forall₂_map_left_iff, List.forall₂_map_right_iff, List.forall₂_same]
    exact reads
  obtain ⟨outputs, read, perm⟩ := List.perm_comp_forall₂ shuffled inOrder
  exact ⟨outputs, mapM_eq_ok.mpr read, perm⟩

/-- Around one item, a loop over a list returns what the parts return. -/
theorem mapM_append_cons_eq_ok {Output : Type} {convert : Item → Except Failure Output}
    {earlier later : List Item} {item : Item} {outputs : List Output}
    (converted : (earlier ++ item :: later).mapM convert = .ok outputs) :
    ∃ before output after, earlier.mapM convert = .ok before ∧ convert item = .ok output ∧
      later.mapM convert = .ok after ∧ outputs = before ++ output :: after := by
  rw [List.mapM_append] at converted
  obtain ⟨before, front, converted⟩ := bind_eq_ok.mp converted
  obtain ⟨rest, back, converted⟩ := bind_eq_ok.mp converted
  rw [List.mapM_cons] at back
  obtain ⟨output, here, back⟩ := bind_eq_ok.mp back
  obtain ⟨after, tail, back⟩ := bind_eq_ok.mp back
  refine ⟨before, output, after, front, here, tail, ?_⟩
  rw [← pure_eq_ok.mp converted, ← pure_eq_ok.mp back]

/-- Every item of a loop is visited at some position. -/
theorem exists_mem_zipIdx {items : List Item} {item : Item} (member : item ∈ items) :
    ∃ position, (item, position) ∈ items.zipIdx := by
  obtain ⟨position, inside, rfl⟩ := List.getElem_of_mem member
  exact ⟨position, List.mem_zipIdx_iff_getElem?.mpr (List.getElem?_eq_getElem inside)⟩

end Loops

/-! ### Failures that cannot happen -/

section Failures

variable {Failure Value Result Item State Output : Type} {failure : Failure}

theorem bind_ne_error {first : Except Failure Value} {next : Value → Except Failure Result}
    (begins : first ≠ .error failure)
    (continues : ∀ value, first = .ok value → next value ≠ .error failure) :
    (first >>= next) ≠ .error failure := by
  cases first with
  | error other => exact fun same => begins (congrArg Except.error (Except.error.inj same))
  | ok value => exact continues value rfl

theorem pure_ne_error (value : Value) : (pure value : Except Failure Value) ≠ .error failure :=
  nofun

theorem refuse_ne_error {condition : Prop} [Decidable condition] {other : Failure}
    (different : other ≠ failure) : refuse condition other ≠ .error failure := by
  unfold refuse
  split
  · exact fun same => different (Except.error.inj same)
  · nofun

theorem orRefuse_ne_error {candidate : Option Value} {other : Failure}
    (different : other ≠ failure) : orRefuse candidate other ≠ .error failure := by
  cases candidate with
  | none => exact fun same => different (Except.error.inj same)
  | some value => nofun

/-- A loop fails with the failure of one of its steps, taken in a state it reached. -/
theorem foldlM_ne_error {step : State → Item → Except Failure State} {items : List Item}
    {start : State} (avoids : ∀ consumed item rest state, items = consumed ++ item :: rest →
      consumed.foldlM step start = .ok state → step state item ≠ .error failure) :
    items.foldlM step start ≠ .error failure := by
  induction items generalizing start with
  | nil => exact pure_ne_error start
  | cons item rest inductionHypothesis =>
    rw [List.foldlM_cons]
    refine bind_ne_error (avoids [] item rest start rfl rfl) fun next stepped => ?_
    refine inductionHypothesis fun consumed other remaining state split ran => ?_
    exact avoids (item :: consumed) other remaining state (by rw [split]; rfl)
      (foldlM_cons_eq_ok.mpr ⟨next, stepped, ran⟩)

theorem mapM_ne_error {convert : Item → Except Failure Output} {items : List Item}
    (avoids : ∀ item ∈ items, convert item ≠ .error failure) :
    items.mapM convert ≠ .error failure := by
  induction items with
  | nil => exact pure_ne_error []
  | cons item rest inductionHypothesis =>
    rw [List.mapM_cons]
    refine bind_ne_error (avoids item List.mem_cons_self) fun output _ => ?_
    refine bind_ne_error (inductionHypothesis fun other member =>
      avoids other (List.mem_cons_of_mem _ member)) fun outputs _ => pure_ne_error _

end Failures

/-! ### Searches -/

/-- A search by a key that no two items share finds the item with that key. -/
theorem find?_key_eq_some {Item Key : Type} [DecidableEq Key] {key : Item → Key}
    {items : List Item} {item : Item} (distinct : (items.map key).Nodup) (member : item ∈ items) :
    (items.find? fun other => key other == key item) = some item := by
  induction items with
  | nil => cases member
  | cons first rest inductionHypothesis =>
    rw [List.map_cons, List.nodup_cons] at distinct
    rcases List.mem_cons.mp member with rfl | later
    · exact List.find?_cons_of_pos (beq_self_eq_true (key item))
    · have different : key first ≠ key item :=
        fun same => distinct.1 (same ▸ List.mem_map_of_mem later)
      rw [List.find?_cons_of_neg (by simpa using different)]
      exact inductionHypothesis distinct.2 later

/-- Items in strictly increasing order of a key do not share it. -/
theorem nodup_of_increasing {Item : Type} {width : Nat} {key : Item → BitVec width}
    {items : List Item}
    (increasing : items.Pairwise fun earlier later => key earlier < key later) :
    (items.map key).Nodup :=
  List.pairwise_map.mpr (increasing.imp BitVec.ne_of_lt)

/-- What a loop knows of its items when it compares each key with the last one: they are in
strictly increasing order, and none is above the last key. -/
structure Increasing {Item : Type} {width : Nat} (key : Item → BitVec width) (items : List Item)
    (last : Option (BitVec width)) : Prop where
  sorted : items.Pairwise fun earlier later => key earlier < key later
  bounded : ∀ item ∈ items, ∃ previous, last = some previous ∧ key item ≤ previous

section Increasing

variable {Item : Type} {width : Nat} {key : Item → BitVec width} {items : List Item}
  {last : Option (BitVec width)} {item : Item}

/-- The order of the maps is the order of the words. -/
theorem lt_of_compare_eq_lt {first second : BitVec width} (before : compare first second = .lt) :
    first < second := by
  simpa [compare, compareOfLessAndEq] using before

/-- What is listed in front of an entry of an ordered map has smaller keys. -/
theorem lt_of_toList_eq {Value : Type} {entries : Std.ExtTreeMap (BitVec width) Value compare}
    [Std.TransOrd (BitVec width)] {consumed rest : List (BitVec width × Value)}
    {entry : BitVec width × Value} (split : consumed ++ entry :: rest = entries.toList) :
    ∀ other ∈ consumed, other.1 < entry.1 := by
  have ordered := Std.ExtTreeMap.ordered_keys_toList (t := entries)
  rw [← split, List.pairwise_append] at ordered
  intro other member
  exact lt_of_compare_eq_lt (ordered.2.2 other member entry List.mem_cons_self)

theorem increasing_nil : Increasing key [] last :=
  ⟨.nil, fun _ member => absurd member List.not_mem_nil⟩

/-- A key above the last one is above all of them. -/
theorem Increasing.above (increasing : Increasing key items last)
    (beyond : ∀ previous, last = some previous → previous < key item) :
    ∀ other ∈ items, key other < key item := by
  intro other member
  obtain ⟨previous, known, bound⟩ := increasing.bounded other member
  exact BitVec.lt_def.mpr
    (lt_of_le_of_lt (BitVec.le_def.mp bound) (BitVec.lt_def.mp (beyond previous known)))

theorem Increasing.concat (increasing : Increasing key items last)
    (beyond : ∀ previous, last = some previous → previous < key item) :
    Increasing key (items ++ [item]) (some (key item)) := by
  have above := increasing.above beyond
  refine ⟨List.pairwise_append.mpr ⟨increasing.sorted, List.pairwise_singleton _ _, ?_⟩, ?_⟩
  · exact fun other member added single => List.mem_singleton.mp single ▸ above other member
  · intro other member
    refine ⟨key item, rfl, ?_⟩
    rcases List.mem_append.mp member with earlier | added
    · exact BitVec.le_of_lt (above other earlier)
    · rw [List.mem_singleton.mp added]
      exact BitVec.le_refl (key item)

end Increasing

/-- A map that is searched like a list, with one more entry under a new key. -/
theorem getElem?_insert_eq_find? {Item Key Value : Type} [Ord Key] [DecidableEq Key]
    [Std.TransOrd Key] [Std.LawfulEqOrd Key] {entries : Std.ExtTreeMap Key Value compare}
    (key : Item → Key) (value : Item → Value) {items : List Item} {item : Item}
    (holds : ∀ wanted, entries[wanted]? =
      (items.find? fun other => key other == wanted).map value)
    (fresh : entries[key item]? = none) (wanted : Key) :
    (entries.insert (key item) (value item))[wanted]? =
      ((items ++ [item]).find? fun other => key other == wanted).map value := by
  rw [Std.ExtTreeMap.getElem?_insert, List.find?_append, Option.map_or, ← holds]
  by_cases same : key item = wanted
  · rw [if_pos (Std.compare_eq_iff_eq.mpr same), ← same, fresh, Option.none_or,
      List.find?_cons_of_pos (by simp), Option.map_some]
  · rw [if_neg (mt Std.compare_eq_iff_eq.mp same), List.find?_cons_of_neg (by simpa using same),
      List.find?_nil, Option.map_none, Option.or_none]

end Guard
