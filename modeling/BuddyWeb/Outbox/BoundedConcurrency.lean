/-
The driver of the Edge worker: several loops take indices from one cursor and await the
task of each, and the tasks settle in any order.
-/
import BuddyWeb.Lib.Run
import Mathlib.Data.List.Range
import Mathlib.Data.List.Perm.Basic

namespace BuddyWeb

variable {α ρ ε : Type}

/-- Where one of the loops stands. -/
inductive Consumer (ε : Type)
  | awaiting (index : Nat)
  | finished
  | rejected (error : ε)
  deriving DecidableEq, Repr

/-- One call of the driver: its variables, its loops, and as a history which tasks were
started and how tasks settled. -/
structure TaskPool (α ρ ε : Type) where
  values : List α
  results : List (Option ρ)
  cursor : Nat
  consumers : List (Consumer ε)
  started : List (α × Nat)
  settled : List (Nat × Except ε ρ)

namespace TaskPool

/-- The head of a loop: the next index is taken and its task started, if there is one. -/
def consume (pool : TaskPool α ρ ε) : Consumer ε × TaskPool α ρ ε :=
  match pool.values[pool.cursor]? with
  | some value =>
      (.awaiting pool.cursor,
        { pool with
          cursor := pool.cursor + 1
          started := pool.started ++ [(value, pool.cursor)] })
  | none => (.finished, pool)

/-- A further loop runs to its first `await`. -/
def addConsumer (pool : TaskPool α ρ ε) : TaskPool α ρ ε :=
  { pool.consume.2 with consumers := pool.consumers ++ [pool.consume.1] }

def addConsumers : Nat → TaskPool α ρ ε → TaskPool α ρ ε
  | 0, pool => pool
  | count + 1, pool => addConsumers count pool.addConsumer

/-- The task which a loop awaits settles, and the loop goes on. -/
def settle (pool : TaskPool α ρ ε) (position index : Nat) : Except ε ρ → TaskPool α ρ ε
  | .ok result =>
      let stored : TaskPool α ρ ε :=
        { pool with
          results := pool.results.set index (some result)
          settled := pool.settled ++ [(index, .ok result)] }
      { stored.consume.2 with consumers := pool.consumers.set position stored.consume.1 }
  | .error error =>
      { pool with
        consumers := pool.consumers.set position (.rejected error)
        settled := pool.settled ++ [(index, .error error)] }

def settle? (pool : TaskPool α ρ ε) (position : Nat) (outcome : Except ε ρ) :
    Option (TaskPool α ρ ε) :=
  match pool.consumers[position]? with
  | some (.awaiting index) => some (pool.settle position index outcome)
  | _ => none

def Step (pool : TaskPool α ρ ε) (label : Nat × Except ε ρ) (after : TaskPool α ρ ε) : Prop :=
  pool.settle? label.1 label.2 = some after

def awaited : Consumer ε → Option Nat
  | .awaiting index => some index
  | _ => none

/-- The indices whose tasks are running. -/
def running (pool : TaskPool α ρ ε) : List Nat :=
  pool.consumers.filterMap awaited

def rejection? : Nat × Except ε ρ → Option ε
  | (_, .error error) => some error
  | (_, .ok _) => none

def isFinished : Consumer ε → Bool
  | .finished => true
  | _ => false

/-- `Promise.all` over the loops: the first rejection, or the results when all have ended. -/
def resolution (pool : TaskPool α ρ ε) : Option (Except ε (List (Option ρ))) :=
  match pool.settled.findSome? rejection? with
  | some error => some (.error error)
  | none => if pool.consumers.all isFinished then some (.ok pool.results) else none

end TaskPool

def mapWithConcurrency (values : List α) (concurrency : Nat) : TaskPool α ρ ε :=
  TaskPool.addConsumers (min concurrency values.length)
    ⟨values, List.replicate values.length none, 0, [], [], []⟩

namespace TaskPool

/-- What every state of a call satisfies. -/
structure Faithful (values : List α) (pool : TaskPool α ρ ε) : Prop where
  values_eq : pool.values = values
  results_length : pool.results.length = values.length
  cursor_le : pool.cursor ≤ values.length
  started_eq : pool.started = values.zipIdx.take pool.cursor
  taken : (pool.running ++ pool.settled.map Prod.fst).Perm (List.range pool.cursor)
  stored : ∀ index result, (index, .ok result) ∈ pool.settled →
    pool.results[index]? = some (some result)
  idle : ∀ consumer ∈ pool.consumers, consumer = .finished → pool.cursor = values.length
  rejected : ∀ error, .rejected error ∈ pool.consumers →
    ∃ index, (index, .error error) ∈ pool.settled

variable {values : List α} {pool : TaskPool α ρ ε}

theorem consume_of_lt (h : pool.cursor < pool.values.length) :
    pool.consume = (.awaiting pool.cursor,
      { pool with
        cursor := pool.cursor + 1
        started := pool.started ++ [(pool.values[pool.cursor], pool.cursor)] }) := by
  rw [consume, List.getElem?_eq_getElem h]

theorem consume_of_le (h : pool.values.length ≤ pool.cursor) :
    pool.consume = (.finished, pool) := by
  rw [consume, List.getElem?_eq_none h]

theorem zipIdx_take_succ {cursor : Nat} (h : cursor < values.length) :
    values.zipIdx.take (cursor + 1) = values.zipIdx.take cursor ++ [(values[cursor], cursor)] := by
  rw [List.take_add_one, List.getElem?_eq_getElem (by simpa using h)]
  simp

/-- Only the set of loops matters, not their order. -/
theorem Faithful.of_perm (hpool : Faithful values pool) {consumers : List (Consumer ε)}
    (hperm : consumers.Perm pool.consumers) :
    Faithful values { pool with consumers := consumers } where
  values_eq := hpool.values_eq
  results_length := hpool.results_length
  cursor_le := hpool.cursor_le
  started_eq := hpool.started_eq
  taken := ((hperm.filterMap awaited).append_right _).trans hpool.taken
  stored := hpool.stored
  idle := fun consumer hconsumer => hpool.idle consumer (hperm.mem_iff.mp hconsumer)
  rejected := fun error herror => hpool.rejected error (hperm.mem_iff.mp herror)

/-- A loop at its head keeps the facts: it takes an index which nobody took, or it ends
because there is none. -/
theorem Faithful.addConsumer (hpool : Faithful values pool) :
    Faithful values pool.addConsumer := by
  have hlength : pool.values.length = values.length := by rw [hpool.values_eq]
  by_cases hless : pool.cursor < pool.values.length
  · have hcursor : pool.cursor < values.length := by omega
    have hnotEnd : pool.cursor ≠ values.length := by omega
    rw [TaskPool.addConsumer, consume_of_lt hless]
    constructor
    · exact hpool.values_eq
    · exact hpool.results_length
    · exact hcursor
    · have hvalue : pool.values[pool.cursor] = values[pool.cursor] := by
        simp only [hpool.values_eq]
      simp only [hpool.started_eq, hvalue]
      rw [zipIdx_take_succ hcursor]
    · have hrunning : ((pool.consumers ++ [Consumer.awaiting pool.cursor]).filterMap
          awaited).Perm (pool.cursor :: pool.running) := by
        rw [List.filterMap_append]
        exact List.perm_append_comm
      rw [List.range_succ]
      have hlonger := (hrunning.append_right (pool.settled.map Prod.fst)).trans
        (hpool.taken.cons pool.cursor)
      exact hlonger.trans (List.perm_append_singleton _ _).symm
    · exact hpool.stored
    · intro consumer hconsumer hfinished
      rcases List.mem_append.mp hconsumer with hold | hnew
      · exact absurd (hpool.idle consumer hold hfinished) hnotEnd
      · rw [List.mem_singleton.mp hnew] at hfinished
        cases hfinished
    · intro error herror
      rcases List.mem_append.mp herror with hold | hnew
      · exact hpool.rejected error hold
      · cases List.mem_singleton.mp hnew
  · have hcursor : pool.cursor = values.length := by
      have hle := hpool.cursor_le
      omega
    rw [TaskPool.addConsumer, consume_of_le (by omega)]
    constructor
    · exact hpool.values_eq
    · exact hpool.results_length
    · exact hpool.cursor_le
    · exact hpool.started_eq
    · have hrunning : (pool.consumers ++ [Consumer.finished]).filterMap awaited =
          pool.running := by
        rw [List.filterMap_append]
        exact List.append_nil _
      have htaken := hpool.taken
      rw [← hrunning] at htaken
      exact htaken
    · exact hpool.stored
    · intro consumer _ _
      exact hcursor
    · intro error herror
      rcases List.mem_append.mp herror with hold | hnew
      · exact hpool.rejected error hold
      · cases List.mem_singleton.mp hnew

theorem Faithful.addConsumers (count : Nat) (hpool : Faithful values pool) :
    Faithful values (pool.addConsumers count) := by
  induction count generalizing pool with
  | zero => exact hpool
  | succ count ih => exact ih hpool.addConsumer

theorem faithful_mapWithConcurrency (values : List α) (concurrency : Nat) :
    Faithful values (mapWithConcurrency values concurrency : TaskPool α ρ ε) := by
  apply Faithful.addConsumers
  constructor
  · rfl
  · exact List.length_replicate
  · exact Nat.zero_le _
  · rfl
  · exact List.Perm.refl _
  · intro index result hmem
    cases hmem
  · intro consumer hmem
    cases hmem
  · intro error hmem
    cases hmem

variable {position index : Nat}

theorem consumers_perm (hconsumer : pool.consumers[position]? = some (.awaiting index)) :
    pool.consumers.Perm (.awaiting index :: pool.consumers.eraseIdx position) := by
  obtain ⟨hposition, hvalue⟩ := List.getElem?_eq_some_iff.mp hconsumer
  rw [← hvalue]
  exact (List.getElem_cons_eraseIdx_perm hposition).symm

theorem set_perm (hconsumer : pool.consumers[position]? = some (.awaiting index))
    (consumer : Consumer ε) :
    (pool.consumers.set position consumer).Perm
      (pool.consumers.eraseIdx position ++ [consumer]) := by
  obtain ⟨hposition, -⟩ := List.getElem?_eq_some_iff.mp hconsumer
  exact (List.set_perm_cons_eraseIdx hposition consumer).trans
    (List.perm_append_singleton _ _).symm

/-- The indices of the other loops and of the tasks settled so far, this one included. -/
theorem Faithful.taken_settled (hpool : Faithful values pool)
    (hconsumer : pool.consumers[position]? = some (.awaiting index))
    (outcome : Except ε ρ) :
    ((pool.consumers.eraseIdx position).filterMap awaited ++
      (pool.settled ++ [(index, outcome)]).map Prod.fst).Perm (List.range pool.cursor) := by
  have hrunning : pool.running.Perm
      (index :: (pool.consumers.eraseIdx position).filterMap awaited) :=
    (consumers_perm hconsumer).filterMap awaited
  rw [List.map_append, ← List.append_assoc]
  exact (List.perm_append_singleton _ _).trans
    ((hrunning.append_right _).symm.trans hpool.taken)

theorem Faithful.index_lt (hpool : Faithful values pool)
    (hconsumer : pool.consumers[position]? = some (.awaiting index)) (outcome : Except ε ρ) :
    index < pool.cursor := by
  apply List.mem_range.mp
  apply (hpool.taken_settled hconsumer outcome).mem_iff.mp
  simp

theorem Faithful.index_notMem (hpool : Faithful values pool)
    (hconsumer : pool.consumers[position]? = some (.awaiting index)) (outcome : Except ε ρ) :
    index ∉ pool.settled.map Prod.fst := by
  have hnodup := (hpool.taken_settled hconsumer outcome).nodup_iff.mpr List.nodup_range
  have hsettled := (List.nodup_append.mp hnodup).2.1
  rw [List.map_append] at hsettled
  intro hmem
  exact (List.nodup_append.mp hsettled).2.2 index hmem index List.mem_cons_self rfl

/-- The pool without the loop whose task has settled with a result. -/
theorem Faithful.stored_ok (hpool : Faithful values pool)
    (hconsumer : pool.consumers[position]? = some (.awaiting index)) (result : ρ) :
    Faithful values
      { pool with
        results := pool.results.set index (some result)
        settled := pool.settled ++ [(index, .ok result)]
        consumers := pool.consumers.eraseIdx position } := by
  have hindex := hpool.index_lt hconsumer (.ok result)
  have hcursor := hpool.cursor_le
  have hbound : index < pool.results.length := by
    rw [hpool.results_length]
    omega
  constructor
  · exact hpool.values_eq
  · exact List.length_set.trans hpool.results_length
  · exact hpool.cursor_le
  · exact hpool.started_eq
  · exact hpool.taken_settled hconsumer (.ok result)
  · intro other value hmem
    rcases List.mem_append.mp hmem with hold | hnew
    · have hne : index ≠ other := by
        intro heq
        exact hpool.index_notMem hconsumer (.ok result) (heq ▸ List.mem_map_of_mem hold)
      rw [List.getElem?_set_ne hne]
      exact hpool.stored other value hold
    · cases List.mem_singleton.mp hnew
      exact List.getElem?_set_self hbound
  · intro consumer hmem
    exact hpool.idle consumer (List.mem_of_mem_eraseIdx hmem)
  · intro error hmem
    obtain ⟨other, hother⟩ := hpool.rejected error (List.mem_of_mem_eraseIdx hmem)
    exact ⟨other, List.mem_append_left _ hother⟩

/-- The settling of a task keeps the facts. -/
theorem Faithful.settle (hpool : Faithful values pool)
    (hconsumer : pool.consumers[position]? = some (.awaiting index))
    (outcome : Except ε ρ) : Faithful values (pool.settle position index outcome) := by
  cases outcome with
  | ok result =>
    have hnext := (hpool.stored_ok hconsumer result).addConsumer
    have hperm := set_perm hconsumer (TaskPool.consume
      { pool with
        results := pool.results.set index (some result)
        settled := pool.settled ++ [(index, .ok result)]
        consumers := pool.consumers.eraseIdx position }).1
    have hafter := hnext.of_perm hperm
    rw [TaskPool.addConsumer] at hafter
    unfold TaskPool.settle
    unfold TaskPool.consume at hafter ⊢
    dsimp only at hafter ⊢
    split at hafter <;> exact hafter
  | error error =>
    rw [TaskPool.settle]
    have hperm := set_perm hconsumer (.rejected error)
    constructor
    · exact hpool.values_eq
    · exact hpool.results_length
    · exact hpool.cursor_le
    · exact hpool.started_eq
    · have htaken := hpool.taken_settled hconsumer (.error error)
      have hrunning : (pool.consumers.set position (.rejected error)).filterMap awaited |>.Perm
          ((pool.consumers.eraseIdx position).filterMap awaited) := by
        have hfilter := hperm.filterMap awaited
        rw [List.filterMap_append] at hfilter
        exact hfilter.trans (List.Perm.of_eq (List.append_nil _))
      exact (hrunning.append_right _).trans htaken
    · intro other value hmem
      rcases List.mem_append.mp hmem with hold | hnew
      · exact hpool.stored other value hold
      · cases List.mem_singleton.mp hnew
    · intro consumer hmem hfinished
      rcases List.mem_append.mp (hperm.mem_iff.mp hmem) with hold | hnew
      · exact hpool.idle consumer (List.mem_of_mem_eraseIdx hold) hfinished
      · rw [List.mem_singleton.mp hnew] at hfinished
        cases hfinished
    · intro other hmem
      rcases List.mem_append.mp (hperm.mem_iff.mp hmem) with hold | hnew
      · obtain ⟨at_, hat⟩ := hpool.rejected other (List.mem_of_mem_eraseIdx hold)
        exact ⟨at_, List.mem_append_left _ hat⟩
      · cases List.mem_singleton.mp hnew
        exact ⟨index, List.mem_append_right _ List.mem_cons_self⟩

theorem consumers_addConsumers (count : Nat) (pool : TaskPool α ρ ε) :
    (pool.addConsumers count).consumers.length = pool.consumers.length + count := by
  induction count generalizing pool with
  | zero => rfl
  | succ count ih =>
    rw [TaskPool.addConsumers, ih, TaskPool.addConsumer, List.length_append, List.length_singleton]
    omega

theorem consumers_settle (outcome : Except ε ρ) :
    (pool.settle position index outcome).consumers.length = pool.consumers.length := by
  cases outcome with
  | ok result => exact List.length_set
  | error error => exact List.length_set

/-- What a step does. -/
theorem step_cases {label : Nat × Except ε ρ} {after : TaskPool α ρ ε}
    (hstep : pool.Step label after) :
    ∃ index, pool.consumers[label.1]? = some (.awaiting index) ∧
      after = pool.settle label.1 index label.2 := by
  unfold Step settle? at hstep
  split at hstep
  · rename_i index hconsumer
    exact ⟨index, hconsumer, (Option.some.inj hstep).symm⟩
  · cases hstep

/-- The states of one call. -/
def Runs (values : List α) (concurrency : Nat) : TaskPool α ρ ε → Prop :=
  Reaches (· = mapWithConcurrency values concurrency) Step fun _ _ => True

variable {concurrency : Nat}

theorem Runs.faithful (hruns : Runs values concurrency pool) : Faithful values pool := by
  apply Reaches.invariant _ _ hruns
  · rintro state rfl
    exact faithful_mapWithConcurrency values concurrency
  · intro state label after hfaithful _ hstep
    obtain ⟨index, hconsumer, rfl⟩ := step_cases hstep
    exact hfaithful.settle hconsumer label.2

theorem Runs.consumers_length (hruns : Runs values concurrency pool) :
    pool.consumers.length = min concurrency values.length := by
  apply Reaches.invariant _ _ hruns
  · rintro state rfl
    rw [mapWithConcurrency, consumers_addConsumers]
    exact Nat.zero_add _
  · intro state label after hlength _ hstep
    obtain ⟨index, hconsumer, rfl⟩ := step_cases hstep
    rw [consumers_settle, hlength]

theorem consume_settled : pool.consume.2.settled = pool.settled := by
  rw [consume]
  split <;> rfl

theorem settled_settle (outcome : Except ε ρ) :
    (pool.settle position index outcome).settled = pool.settled ++ [(index, outcome)] := by
  cases outcome with
  | ok result => exact consume_settled
  | error error => rfl

theorem settled_addConsumers (count : Nat) (pool : TaskPool α ρ ε) :
    (pool.addConsumers count).settled = pool.settled := by
  induction count generalizing pool with
  | zero => rfl
  | succ count ih =>
    rw [TaskPool.addConsumers, ih]
    exact consume_settled

theorem settled_mapWithConcurrency (values : List α) (concurrency : Nat) :
    (mapWithConcurrency values concurrency : TaskPool α ρ ε).settled = [] :=
  settled_addConsumers _ _

/-- An array without empty slots. -/
theorem exists_outputs {entries : List (Option ρ)}
    (h : ∀ entry ∈ entries, ∃ output, entry = some output) :
    ∃ outputs : List ρ, entries = outputs.map some := by
  induction entries with
  | nil => exact ⟨[], rfl⟩
  | cons entry rest ih =>
    obtain ⟨output, houtput⟩ := h entry List.mem_cons_self
    obtain ⟨outputs, houtputs⟩ := ih fun other hother => h other (List.mem_cons_of_mem _ hother)
    exact ⟨output :: outputs, by rw [houtput, houtputs, List.map_cons]⟩

/-- When the call returns, every task was started and settled once, and its result stands at
the place of its item. -/
theorem Runs.returned (hruns : Runs values concurrency pool) (hpositive : 1 ≤ concurrency)
    {results : List (Option ρ)} (hreturned : pool.resolution = some (.ok results)) :
    pool.started = values.zipIdx ∧
      (pool.settled.map Prod.fst).Perm (List.range values.length) ∧
      ∃ outputs : List ρ, results = outputs.map some ∧ outputs.length = values.length ∧
        ∀ index output, outputs[index]? = some output → (index, .ok output) ∈ pool.settled := by
  have hfaithful := hruns.faithful
  unfold resolution at hreturned
  split at hreturned
  · cases hreturned
  · rename_i hnone
    split at hreturned
    · rename_i hfinished
      have hresults : results = pool.results := by
        cases hreturned
        rfl
      have hall := List.all_eq_true.mp hfinished
      -- a loop has ended, so no index is left
      have hcursor : pool.cursor = values.length := by
        have hloops := hruns.consumers_length
        cases hconsumers : pool.consumers with
        | nil =>
          rw [hconsumers, List.length_nil] at hloops
          have hle := hfaithful.cursor_le
          omega
        | cons consumer rest =>
          have hmem : consumer ∈ pool.consumers := by
            rw [hconsumers]
            exact List.mem_cons_self
          have hend := hall consumer hmem
          cases consumer with
          | finished => exact hfaithful.idle _ hmem rfl
          | awaiting index => cases hend
          | rejected error => cases hend
      have hidle : pool.running = [] := by
        apply List.filterMap_eq_nil_iff.mpr
        intro consumer hmem
        have hend := hall consumer hmem
        cases consumer with
        | finished => rfl
        | awaiting index => cases hend
        | rejected error => cases hend
      have htaken := hfaithful.taken
      rw [hidle, List.nil_append, hcursor] at htaken
      have hstored : ∀ index, index < values.length → ∃ output,
          (index, .ok output) ∈ pool.settled ∧ pool.results[index]? = some (some output) := by
        intro index hindex
        obtain ⟨⟨other, outcome⟩, hmem, heq⟩ :=
          List.mem_map.mp (htaken.mem_iff.mpr (List.mem_range.mpr hindex))
        cases heq
        cases outcome with
        | ok output => exact ⟨output, hmem, hfaithful.stored _ _ hmem⟩
        | error error =>
          exact absurd (List.findSome?_eq_none_iff.mp hnone _ hmem) (by simp [rejection?])
      have hfull : ∀ entry ∈ pool.results, ∃ output, entry = some output := by
        intro entry hentry
        obtain ⟨index, hindex⟩ := List.mem_iff_getElem?.mp hentry
        have hless : index < values.length := by
          rw [← hfaithful.results_length]
          exact (List.getElem?_eq_some_iff.mp hindex).1
        obtain ⟨output, -, houtput⟩ := hstored index hless
        exact ⟨output, Option.some.inj (hindex.symm.trans houtput)⟩
      obtain ⟨outputs, houtputs⟩ := exists_outputs hfull
      have hlength : outputs.length = values.length := by
        rw [← hfaithful.results_length, houtputs, List.length_map]
      refine ⟨?_, htaken, outputs, hresults.trans houtputs, hlength, ?_⟩
      · rw [hfaithful.started_eq, hcursor]
        exact List.take_of_length_le (by simp)
      · intro index output houtput
        have hless : index < values.length := by
          rw [← hlength]
          exact (List.getElem?_eq_some_iff.mp houtput).1
        obtain ⟨stored, hsettled, hslot⟩ := hstored index hless
        rw [houtputs, List.getElem?_map, houtput] at hslot
        cases hslot
        exact hsettled
    · cases hreturned

end TaskPool

end BuddyWeb
