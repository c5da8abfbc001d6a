/-
Programs which share a state and hand over to each other only where they wait, and what
they keep under every interleaving.
-/
import BuddyWeb.Lib.Run
import Mathlib.Logic.Function.Basic

namespace BuddyWeb

variable {σ : Type} {W : Type} {A : W → Type} {ε α β : Type}

/-- A program which changes the state alone until it waits for a signal. -/
inductive Async (σ : Type) {W : Type} (A : W → Type) (ε α : Type) : Type
  | done (result : Except ε α)
  | act (update : σ → σ) (next : σ → Async σ A ε α)
  | wait (signal : W) (next : A signal → Async σ A ε α)

namespace Async

def bind : Async σ A ε α → (α → Async σ A ε β) → Async σ A ε β
  | done (.ok value), next => next value
  | done (.error error), _ => done (.error error)
  | act update rest, next => act update fun state => (rest state).bind next
  | wait signal rest, next => wait signal fun answer => (rest answer).bind next

def tryCatch : Async σ A ε α → (ε → Async σ A ε α) → Async σ A ε α
  | done (.ok value), _ => done (.ok value)
  | done (.error error), handler => handler error
  | act update rest, handler => act update fun state => (rest state).tryCatch handler
  | wait signal rest, handler => wait signal fun answer => (rest answer).tryCatch handler

/-- The result as a value, also where it is an error. -/
def attempt : Async σ A ε α → Async σ A ε (Except ε α)
  | done result => done (.ok result)
  | act update rest => act update fun state => (rest state).attempt
  | wait signal rest => wait signal fun answer => (rest answer).attempt

instance : Monad (Async σ A ε) where
  pure value := done (.ok value)
  bind := bind

instance : MonadExceptOf ε (Async σ A ε) where
  throw error := done (.error error)
  tryCatch := tryCatch

/-- The state as the program finds it. -/
def read : Async σ A ε σ :=
  act id fun state => done (.ok state)

def modify (update : σ → σ) : Async σ A ε Unit :=
  act update fun _ => done (.ok ())

def await (signal : W) : Async σ A ε (A signal) :=
  wait signal fun answer => done (.ok answer)

def finish (result : Except ε α) : Async σ A ε α :=
  done result

def onlyIf (condition : Prop) [Decidable condition] (program : Async σ A ε Unit) :
    Async σ A ε Unit :=
  if condition then program else pure ()

def throwIf (condition : Prop) [Decidable condition] (error : ε) : Async σ A ε Unit :=
  onlyIf condition (throw error)

/-- The program up to its next wait, with the state which it leaves. -/
def segment : Async σ A ε α → σ → Async σ A ε α × σ
  | act update next, state => (next state).segment (update state)
  | program, state => (program, state)

end Async

/-- When a signal's answer may arrive, and what no change of the state may break. -/
structure Setting (σ : Type) {W : Type} (A : W → Type) where
  ready : (signal : W) → σ → A signal → Prop
  keeps : σ → σ → Prop
  refl : ∀ state, keeps state state
  trans : ∀ {first second third}, keeps first second → keeps second third → keeps first third

/-- A fact which every change that is kept preserves. -/
def Setting.Stable (setting : Setting σ A) (fact : σ → Prop) : Prop :=
  ∀ before after, setting.keeps before after → fact before → fact after

theorem Setting.stable_keeps (setting : Setting σ A) (state : σ) :
    setting.Stable (setting.keeps state) :=
  fun _ _ hkeeps hbefore => setting.trans hbefore hkeeps

theorem Setting.Stable.and {setting : Setting σ A} {first second : σ → Prop}
    (hfirst : setting.Stable first) (hsecond : setting.Stable second) :
    setting.Stable fun state => first state ∧ second state :=
  fun before after hkeeps hbefore =>
    ⟨hfirst before after hkeeps hbefore.1, hsecond before after hkeeps hbefore.2⟩

namespace Async

variable {setting : Setting σ A} {post : Except ε α → σ → Prop}

/-- From this state on the program makes only changes that are kept, whatever the others
do where it waits, and ends as the postcondition says. -/
def Secures (setting : Setting σ A) :
    Async σ A ε α → (Except ε α → σ → Prop) → σ → Prop
  | done result, post, state => post result state
  | act update next, post, state =>
      setting.keeps state (update state) ∧ (next state).Secures setting post (update state)
  | wait signal next, post, state =>
      ∀ after answer, setting.keeps state after → setting.ready signal after answer →
        (next answer).Secures setting post after

theorem Secures.mono {weaker : Except ε α → σ → Prop}
    (himp : ∀ result state, post result state → weaker result state)
    {program : Async σ A ε α} {state : σ} (h : program.Secures setting post state) :
    program.Secures setting weaker state := by
  induction program generalizing state with
  | done result => exact himp result state h
  | act update next ih => exact ⟨h.1, ih state h.2⟩
  | wait signal next ih =>
      intro after answer hkeeps hready
      exact ih answer (h after answer hkeeps hready)

/-- What is stable outlives the program. -/
theorem Secures.frame {fact : σ → Prop} (hstable : setting.Stable fact)
    {program : Async σ A ε α} {state : σ} (h : program.Secures setting post state)
    (hfact : fact state) :
    program.Secures setting (fun result after => post result after ∧ fact after) state := by
  induction program generalizing state with
  | done result => exact ⟨h, hfact⟩
  | act update next ih => exact ⟨h.1, ih state h.2 (hstable _ _ h.1 hfact)⟩
  | wait signal next ih =>
      intro after answer hkeeps hready
      exact ih answer (h after answer hkeeps hready) (hstable _ _ hkeeps hfact)

theorem Secures.read {post : Except ε σ → σ → Prop} {state : σ} (h : post (.ok state) state) :
    (Async.read : Async σ A ε σ).Secures setting post state :=
  ⟨setting.refl state, h⟩

theorem Secures.modify {post : Except ε Unit → σ → Prop} {update : σ → σ} {state : σ}
    (hkeeps : setting.keeps state (update state)) (h : post (.ok ()) (update state)) :
    (Async.modify update : Async σ A ε Unit).Secures setting post state :=
  ⟨hkeeps, h⟩

theorem Secures.await {signal : W} {post : Except ε (A signal) → σ → Prop} {state : σ}
    (h : ∀ after answer, setting.keeps state after → setting.ready signal after answer →
      post (.ok answer) after) :
    (Async.await signal : Async σ A ε (A signal)).Secures setting post state :=
  h

/-- What a sequence has to secure after its first part. -/
def afterOk (setting : Setting σ A) (next : α → Async σ A ε β)
    (post : Except ε β → σ → Prop) : Except ε α → σ → Prop
  | .ok value, state => (next value).Secures setting post state
  | .error error, state => post (.error error) state

theorem Secures.bind {first : Async σ A ε α} {next : α → Async σ A ε β}
    {post : Except ε β → σ → Prop} {state : σ}
    (h : first.Secures setting (afterOk setting next post) state) :
    (first >>= next).Secures setting post state := by
  change (first.bind next).Secures setting post state
  induction first generalizing state with
  | done result =>
      cases result with
      | ok value => exact h
      | error error => exact h
  | act update rest ih => exact ⟨h.1, ih state h.2⟩
  | wait signal rest ih =>
      intro after answer hkeeps hready
      exact ih answer (h after answer hkeeps hready)

/-- What a handler has to secure. -/
def afterError (setting : Setting σ A) (handler : ε → Async σ A ε α)
    (post : Except ε α → σ → Prop) : Except ε α → σ → Prop
  | .ok value, state => post (.ok value) state
  | .error error, state => (handler error).Secures setting post state

theorem Secures.tryCatch {program : Async σ A ε α} {handler : ε → Async σ A ε α} {state : σ}
    (h : program.Secures setting (afterError setting handler post) state) :
    (MonadExcept.tryCatch program handler : Async σ A ε α).Secures setting post state := by
  change (program.tryCatch handler).Secures setting post state
  induction program generalizing state with
  | done result =>
      cases result with
      | ok value => exact h
      | error error => exact h
  | act update rest ih => exact ⟨h.1, ih state h.2⟩
  | wait signal rest ih =>
      intro after answer hkeeps hready
      exact ih answer (h after answer hkeeps hready)

theorem Secures.attempt {program : Async σ A ε α}
    {post : Except ε (Except ε α) → σ → Prop} {state : σ}
    (h : program.Secures setting (fun result after => post (.ok result) after) state) :
    program.attempt.Secures setting post state := by
  induction program generalizing state with
  | done result => exact h
  | act update rest ih => exact ⟨h.1, ih state h.2⟩
  | wait signal rest ih =>
      intro after answer hkeeps hready
      exact ih answer (h after answer hkeeps hready)

/-- A sequence, while something stable holds. -/
theorem Secures.seq {first : Async σ A ε α} {next : α → Async σ A ε β} {fact : σ → Prop}
    {middle : Except ε α → σ → Prop} {post : Except ε β → σ → Prop} {state : σ}
    (hstable : setting.Stable fact) (hfact : fact state)
    (hfirst : first.Secures setting middle state)
    (hok : ∀ value after, fact after → middle (.ok value) after →
      (next value).Secures setting post after)
    (herror : ∀ error after, fact after → middle (.error error) after →
      post (.error error) after) :
    (first >>= next).Secures setting post state := by
  apply Secures.bind
  apply Secures.mono _ (hfirst.frame hstable hfact)
  intro result after hboth
  cases result with
  | ok value => exact hok value after hboth.2 hboth.1
  | error error => exact herror error after hboth.2 hboth.1

/-- A handled program, while something stable holds. -/
theorem Secures.handle {program : Async σ A ε α} {handler : ε → Async σ A ε α}
    {fact : σ → Prop} {middle : Except ε α → σ → Prop} {state : σ}
    (hstable : setting.Stable fact) (hfact : fact state)
    (hprogram : program.Secures setting middle state)
    (hok : ∀ value after, fact after → middle (.ok value) after → post (.ok value) after)
    (herror : ∀ error after, fact after → middle (.error error) after →
      (handler error).Secures setting post after) :
    (MonadExcept.tryCatch program handler : Async σ A ε α).Secures setting post state := by
  apply Secures.tryCatch
  apply Secures.mono _ (hprogram.frame hstable hfact)
  intro result after hboth
  cases result with
  | ok value => exact hok value after hboth.2 hboth.1
  | error error => exact herror error after hboth.2 hboth.1

theorem Secures.read_bind {next : σ → Async σ A ε α} {state : σ}
    (h : (next state).Secures setting post state) :
    (Async.read >>= next).Secures setting post state :=
  Secures.bind (Secures.read h)

theorem Secures.modify_bind {update : σ → σ} {next : Unit → Async σ A ε α} {state : σ}
    (hkeeps : setting.keeps state (update state))
    (h : (next ()).Secures setting post (update state)) :
    (Async.modify update >>= next).Secures setting post state :=
  Secures.bind (Secures.modify hkeeps h)

theorem Secures.onlyIf {condition : Prop} [Decidable condition] {program : Async σ A ε Unit}
    {post : Except ε Unit → σ → Prop} {state : σ}
    (htrue : condition → program.Secures setting post state)
    (hfalse : ¬condition → post (.ok ()) state) :
    (Async.onlyIf condition program).Secures setting post state := by
  unfold Async.onlyIf
  by_cases h : condition
  · rw [if_pos h]
    exact htrue h
  · rw [if_neg h]
    exact hfalse h

/-- The program makes only changes that are kept. -/
abbrev Safe (setting : Setting σ A) (program : Async σ A ε α) (state : σ) : Prop :=
  program.Secures setting (fun _ _ => True) state

theorem Secures.safe {program : Async σ A ε α} {state : σ}
    (h : program.Secures setting post state) : program.Safe setting state :=
  h.mono fun _ _ _ => trivial

theorem Safe.seq {first : Async σ A ε α} {next : α → Async σ A ε β} {fact : σ → Prop}
    {state : σ} (hstable : setting.Stable fact) (hfact : fact state)
    (hfirst : first.Safe setting state)
    (hnext : ∀ value after, fact after → (next value).Safe setting after) :
    (first >>= next).Safe setting state :=
  Secures.seq hstable hfact hfirst (fun value after h _ => hnext value after h)
    fun _ _ _ _ => trivial

theorem Safe.handle {program : Async σ A ε α} {handler : ε → Async σ A ε α} {fact : σ → Prop}
    {state : σ} (hstable : setting.Stable fact) (hfact : fact state)
    (hprogram : program.Safe setting state)
    (hhandler : ∀ error after, fact after → (handler error).Safe setting after) :
    (MonadExcept.tryCatch program handler : Async σ A ε α).Safe setting state :=
  Secures.handle hstable hfact hprogram (fun _ _ _ _ => trivial)
    fun error after h _ => hhandler error after h

theorem Safe.attempt {program : Async σ A ε α} {state : σ} (h : program.Safe setting state) :
    program.attempt.Safe setting state :=
  Secures.attempt h

theorem Safe.await {signal : W} {state : σ} :
    (Async.await signal : Async σ A ε (A signal)).Safe setting state :=
  Secures.await fun _ _ _ _ => trivial

theorem Safe.throwIf {condition : Prop} [Decidable condition] {error : ε} {state : σ} :
    (Async.throwIf condition error : Async σ A ε Unit).Safe setting state :=
  Secures.onlyIf (fun _ => trivial) fun _ => trivial

/-- A program that has been started and has come to a wait, or has ended. -/
def Rests (setting : Setting σ A) (program : Async σ A ε α) (state : σ) : Prop :=
  match program with
  | done _ => True
  | act _ _ => False
  | wait signal next => ∀ after answer, setting.keeps state after →
      setting.ready signal after answer →
      (next answer).Secures setting (fun _ _ => True) after

theorem Rests.mono {program : Async σ A ε α} {before after : σ}
    (hkeeps : setting.keeps before after) (h : program.Rests setting before) :
    program.Rests setting after := by
  cases program with
  | done result => trivial
  | act update next => exact h
  | wait signal next =>
      intro later answer hlater hready
      exact h later answer (setting.trans hkeeps hlater) hready

theorem Secures.segment {program : Async σ A ε α} {state : σ}
    (h : program.Secures setting (fun _ _ => True) state) :
    setting.keeps state (program.segment state).2 ∧
      (program.segment state).1.Rests setting (program.segment state).2 := by
  induction program generalizing state with
  | done result => exact ⟨setting.refl state, trivial⟩
  | act update next ih =>
      have hrest := ih state h.2
      exact ⟨setting.trans h.1 hrest.1, hrest.2⟩
  | wait signal next ih => exact ⟨setting.refl state, h⟩

end Async

/-- A shared state with the programs started on it. -/
structure Pool (σ : Type) {W : Type} (A : W → Type) (ε α : Type) where
  state : σ
  threads : Nat → Option (Async σ A ε α)

/-- What happens next: a call starts, or a waiting program is answered. -/
inductive Pool.Label (C W : Type)
  | call (thread : Nat) (name : C)
  | resume (thread : Nat) (signal : W)

namespace Pool

variable {C : Type} {program : C → Async σ A ε α}
  {ready : (signal : W) → σ → A signal → Prop}

/-- A program runs to its next wait. -/
def run (pool : Pool σ A ε α) (thread : Nat) (program : Async σ A ε α) : Pool σ A ε α where
  state := (program.segment pool.state).2
  threads := Function.update pool.threads thread (some (program.segment pool.state).1)

inductive Step (program : C → Async σ A ε α) (ready : (signal : W) → σ → A signal → Prop) :
    Pool σ A ε α → Label C W → Pool σ A ε α → Prop
  | call {pool : Pool σ A ε α} {thread : Nat} {name : C} (hfree : pool.threads thread = none) :
      Step program ready pool (.call thread name) (pool.run thread (program name))
  | resume {pool : Pool σ A ε α} {thread : Nat} {signal : W}
      {next : A signal → Async σ A ε α} {answer : A signal}
      (hwait : pool.threads thread = some (.wait signal next))
      (hready : ready signal pool.state answer) :
      Step program ready pool (.resume thread signal) (pool.run thread (next answer))

/-- Steps whose calls and answers meet a condition on the state before them. -/
def Allowed (calls : C → σ → Prop) (answers : W → σ → Prop) (pool : Pool σ A ε α) :
    Label C W → Prop
  | .call _ name => calls name pool.state
  | .resume _ signal => answers signal pool.state

instance (calls : C → σ → Prop) (answers : W → σ → Prop)
    [∀ name state, Decidable (calls name state)]
    [∀ signal state, Decidable (answers signal state)] (pool : Pool σ A ε α) :
    ∀ label, Decidable (Allowed calls answers pool label)
  | .call _ name => inferInstanceAs (Decidable (calls name pool.state))
  | .resume _ signal => inferInstanceAs (Decidable (answers signal pool.state))

/-- The pool has kept the relation, and each of its programs goes on to. -/
structure Keeping (setting : Setting σ A) (start : σ) (pool : Pool σ A ε α) : Prop where
  state : setting.keeps start pool.state
  threads : ∀ thread waiting, pool.threads thread = some waiting →
    waiting.Rests setting pool.state

theorem Keeping.run {setting : Setting σ A} {start : σ} {pool : Pool σ A ε α} {thread : Nat}
    {program : Async σ A ε α} (hpool : pool.Keeping setting start)
    (h : program.Secures setting (fun _ _ => True) pool.state) :
    (pool.run thread program).Keeping setting start := by
  have hsegment := h.segment
  constructor
  · exact setting.trans hpool.state hsegment.1
  · intro other waiting hother
    by_cases heq : other = thread
    · subst heq
      have hwaiting : (program.segment pool.state).1 = waiting := by
        simpa [Pool.run] using hother
      exact hwaiting ▸ hsegment.2
    · have hsame : pool.threads other = some waiting := by
        simpa [Pool.run, Function.update_of_ne heq] using hother
      exact (hpool.threads other waiting hsame).mono hsegment.1

/-- Calls that are safe where they are allowed keep the setting's relation over every
interleaving. -/
theorem keeping_of_reaches (setting : Setting σ A) {calls : C → σ → Prop}
    {answers : W → σ → Prop} {start : σ}
    (hready : ∀ signal state answer, ready signal state answer → answers signal state →
      setting.ready signal state answer)
    (hcalls : ∀ name state, setting.keeps start state → calls name state →
      (program name).Secures setting (fun _ _ => True) state)
    {pool : Pool σ A ε α}
    (hreach : Reaches (fun pool => pool = ⟨start, fun _ => none⟩) (Step program ready)
      (Allowed calls answers) pool) :
    pool.Keeping setting start := by
  refine Reaches.invariant ?_ ?_ hreach
  · rintro pool rfl
    exact ⟨setting.refl start, fun thread waiting h => by cases h⟩
  · intro pool label after hpool hallowed hstep
    cases hstep with
    | call hfree => exact hpool.run (hcalls _ _ hpool.state hallowed)
    | resume hwait hanswer =>
        exact hpool.run (hpool.threads _ _ hwait _ _ (setting.refl _)
          (hready _ _ _ hanswer hallowed))

/-- A step with the answer which it takes. -/
inductive Move (C : Type) {W : Type} (A : W → Type)
  | call (thread : Nat) (name : C)
  | resume (thread : Nat) (answer : (signal : W) → A signal)

/-- The pool after a move that is possible and allowed. -/
def move (program : C → Async σ A ε α) (ready : (signal : W) → σ → A signal → Prop)
    (allowed : Pool σ A ε α → Label C W → Prop)
    [∀ signal state answer, Decidable (ready signal state answer)]
    [∀ pool label, Decidable (allowed pool label)] (pool : Pool σ A ε α) :
    Move C A → Option (Pool σ A ε α)
  | .call thread name =>
      match pool.threads thread with
      | none =>
          if allowed pool (.call thread name) then some (pool.run thread (program name))
          else none
      | some _ => none
  | .resume thread answer =>
      match pool.threads thread with
      | some (.wait signal next) =>
          if ready signal pool.state (answer signal) ∧ allowed pool (.resume thread signal) then
            some (pool.run thread (next (answer signal)))
          else none
      | _ => none

def moves (program : C → Async σ A ε α) (ready : (signal : W) → σ → A signal → Prop)
    (allowed : Pool σ A ε α → Label C W → Prop)
    [∀ signal state answer, Decidable (ready signal state answer)]
    [∀ pool label, Decidable (allowed pool label)] :
    Pool σ A ε α → List (Move C A) → Option (Pool σ A ε α)
  | pool, [] => some pool
  | pool, next :: rest =>
      (pool.move program ready allowed next).bind fun after =>
        after.moves program ready allowed rest

section Moves

variable {init : Pool σ A ε α → Prop} {allowed : Pool σ A ε α → Label C W → Prop}
  [∀ signal state answer, Decidable (ready signal state answer)]
  [∀ pool label, Decidable (allowed pool label)]

theorem reaches_of_move {pool after : Pool σ A ε α} {next : Move C A}
    (hreach : Reaches init (Step program ready) allowed pool)
    (hmove : pool.move program ready allowed next = some after) :
    Reaches init (Step program ready) allowed after := by
  cases next with
  | call thread name =>
      simp only [move] at hmove
      split at hmove
      · rename_i hfree
        split at hmove
        · rename_i hallowed
          exact Option.some.inj hmove ▸ hreach.next hallowed (Step.call hfree)
        · cases hmove
      · cases hmove
  | resume thread answer =>
      simp only [move] at hmove
      split at hmove
      · rename_i signal next hwait
        split at hmove
        · rename_i hboth
          exact Option.some.inj hmove ▸ hreach.next hboth.2 (Step.resume hwait hboth.1)
        · cases hmove
      · cases hmove

/-- Moves which lead to a pool with a decidable property reach such a pool. -/
theorem exists_of_moves {pool : Pool σ A ε α}
    (hreach : Reaches init (Step program ready) allowed pool) (list : List (Move C A))
    (property : Pool σ A ε α → Bool)
    (hmoves : (pool.moves program ready allowed list).any property = true) :
    ∃ after, Reaches init (Step program ready) allowed after ∧ property after = true := by
  induction list generalizing pool with
  | nil => exact ⟨pool, hreach, by simpa [moves] using hmoves⟩
  | cons next rest ih =>
      cases hmove : pool.move program ready allowed next with
      | none => simp [moves, hmove] at hmoves
      | some after =>
          exact ih (reaches_of_move hreach hmove) (by simpa [moves, hmove] using hmoves)

end Moves

end Pool

end BuddyWeb
