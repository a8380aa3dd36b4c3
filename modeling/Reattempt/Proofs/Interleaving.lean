import Reattempt.Proofs.Isolation

/-! Interleavings. The calls of a policy are served in turns. Each of them gets the same
results and comes equally far as if it were alone, and the policy counts what all of them
count alone, whatever the order of the turns. -/

namespace Reattempt

variable {σ β : Type}

open World Reattempt.Action

def ofCall (number : Nat) (turns : List (Nat × β)) : List β :=
  (turns.filter (·.1 = number)).map (·.2)

@[simp] theorem ofCall_cons_self (number : Nat) (item : β) (turns : List (Nat × β)) :
    ofCall number ((number, item) :: turns) = item :: ofCall number turns := by
  simp [ofCall]

@[simp] theorem ofCall_cons_of_ne {number other : Nat} (different : other ≠ number) (item : β)
    (turns : List (Nat × β)) : ofCall number ((other, item) :: turns) = ofCall number turns := by
  simp [ofCall, different]

/-! ## Sums of counters -/

namespace Counters

instance : Zero Counters :=
  ⟨{}⟩

instance : Add Counters where
  add left right :=
    { succeededAtOnce := left.succeededAtOnce + right.succeededAtOnce
      succeededAfterRetry := left.succeededAfterRetry + right.succeededAfterRetry
      rejected := left.rejected + right.rejected
      exhausted := left.exhausted + right.exhausted }

private theorem add_eq (left right : Counters) : left + right =
    { succeededAtOnce := left.succeededAtOnce + right.succeededAtOnce
      succeededAfterRetry := left.succeededAfterRetry + right.succeededAfterRetry
      rejected := left.rejected + right.rejected
      exhausted := left.exhausted + right.exhausted } :=
  rfl

theorem add_zero (counters : Counters) : counters + 0 = counters :=
  rfl

private theorem enter_add (left right : Counters) (ledger : List Entry) :
    left.enter ledger + right = (left + right).enter ledger := by
  simp only [add_eq, enter, mk.injEq]
  omega

private theorem add_enter (left right : Counters) (ledger : List Entry) :
    left + right.enter ledger = (left + right).enter ledger := by
  simp only [add_eq, enter, mk.injEq]
  omega

private theorem enter_injective {left right : Counters} {ledger : List Entry}
    (equal : left.enter ledger = right.enter ledger) : left = right := by
  rcases left with ⟨_, _, _, _⟩
  rcases right with ⟨_, _, _, _⟩
  simp only [enter, mk.injEq] at equal ⊢
  omega

private theorem sum_eq_zero {numbers : List Nat} {counters : Nat → Counters}
    (none : ∀ number ∈ numbers, counters number = 0) : (numbers.map counters).sum = 0 := by
  induction numbers with
  | nil => rfl
  | cons first rest induction =>
      rw [List.map_cons, List.sum_cons, none first List.mem_cons_self,
        induction fun number member => none number (List.mem_cons_of_mem _ member)]
      rfl

/-- What one of several calls enters is entered into their sum. -/
theorem sum_enter {numbers : List Nat} (distinct : numbers.Nodup) {number : Nat}
    (member : number ∈ numbers) {before after : Nat → Counters} {ledger : List Entry}
    (entered : after number = (before number).enter ledger)
    (others : ∀ other, other ≠ number → after other = before other) :
    (numbers.map after).sum = (numbers.map before).sum.enter ledger := by
  induction numbers with
  | nil => cases member
  | cons first rest induction =>
      rcases List.nodup_cons.mp distinct with ⟨absent, distinct⟩
      rw [List.map_cons, List.map_cons, List.sum_cons, List.sum_cons]
      rcases List.mem_cons.mp member with rfl | member
      · have same : rest.map after = rest.map before := by
          apply List.map_congr_left
          intro other elsewhere
          exact others other fun equal => absent (equal ▸ elsewhere)
        rw [entered, same, enter_add]
      · have different : first ≠ number := fun equal => absent (equal ▸ member)
        rw [others first different, induction distinct member, add_enter]

end Counters

namespace Environment

/-- Serve calls of a policy in turns. -/
def interleave (environment : Environment σ) (policy : Policy) :
    List (Nat × Request) → World σ → List (Nat × Except Failure Unit) × World σ
  | [], world => ([], world)
  | (number, request) :: turns, world =>
      let result := environment.serve ⟨number, policy⟩ request world
      let rest := environment.interleave policy turns (lastWorld result)
      ((number, outcomeOf result) :: rest.1, rest.2)

def serveAll (environment : Environment σ) (call : Call) :
    List Request → World σ → List (Except Failure Unit) × World σ
  | [], world => ([], world)
  | request :: requests, world =>
      let result := environment.serve call request world
      let rest := environment.serveAll call requests (lastWorld result)
      (outcomeOf result :: rest.1, rest.2)

variable {environment : Environment σ} {calls : Nat → Prop} {policy : Policy}

/-! ## One turn -/

section Turn

variable {call : Call} {number : Nat} {here there : World σ}

theorem Beside.both (discreet : environment.Discreet calls) (pure : environment.Pure calls)
    (beside : Beside calls ⟨number, policy⟩ call here there) (request : Request) :
    Beside calls ⟨number, policy⟩ call
      (lastWorld (environment.serve ⟨number, policy⟩ request here))
      (lastWorld (environment.serve call request there)) :=
  { beside with progress := (matches_serve beside discreet pure request).progress }

theorem Beside.other (discreet : environment.Discreet calls) (pure : environment.Pure calls)
    (beside : Beside calls ⟨number, policy⟩ call here there) {other : Nat}
    (different : other ≠ number) (request : Request) :
    Beside calls ⟨number, policy⟩ call
      (lastWorld (environment.serve ⟨other, policy⟩ request here)) there :=
  { beside with
    progress := (keeps_others_serve discreet pure ⟨other, policy⟩ request here number
      ⟨beside.leftMember, different.symm⟩).trans beside.progress }

end Turn

/-! ## All turns -/

theorem interleave_beside (discreet : environment.Discreet calls) (pure : environment.Pure calls)
    (turns : List (Nat × Request)) {number : Nat} {call : Call} {here there : World σ}
    (beside : Beside calls ⟨number, policy⟩ call here there) :
    let together := environment.interleave policy turns here
    let alone := environment.serveAll call (ofCall number turns) there
    (ofCall number together.1).map (·.mapError Failure.unnumbered) =
        alone.1.map (·.mapError Failure.unnumbered) ∧
      Beside calls ⟨number, policy⟩ call together.2 alone.2 := by
  induction turns generalizing here there with
  | nil => exact ⟨rfl, beside⟩
  | cons turn turns induction =>
      rcases turn with ⟨served, request⟩
      by_cases same : served = number
      · subst same
        have matched := matches_serve beside discreet pure request
        rcases induction (beside.both discreet pure request) with ⟨results, last⟩
        rw [ofCall_cons_self]
        refine ⟨?_, last⟩
        simp only [interleave, serveAll, ofCall_cons_self, List.map_cons, matched.outcome, results]
      · rcases induction (beside.other discreet pure same request) with ⟨results, last⟩
        rw [ofCall_cons_of_ne same]
        refine ⟨?_, last⟩
        simp only [interleave, ofCall_cons_of_ne same, results]

/-- A failure that only one call reports gets its cause from this call. -/
theorem causes_beside (discreet : environment.Discreet calls) (pure : environment.Pure calls)
    {turns : List (Nat × Request)} {number : Nat} {call : Call} {here there : World σ}
    (beside : Beside calls ⟨number, policy⟩ call here there) {identity : Nat}
    (own : ∀ turn ∈ turns, turn.1 ≠ number → ∀ {failure}, turn.2.failure? = some failure →
      failure.identity ≠ .given identity)
    (alike : CauseLinks.AlikeAt identity here.links there.links) :
    CauseLinks.AlikeAt identity (environment.interleave policy turns here).2.links
      (environment.serveAll call (ofCall number turns) there).2.links := by
  induction turns generalizing here there with
  | nil => exact alike
  | cons turn turns induction =>
      rcases turn with ⟨served, request⟩
      have later := fun turn member => own turn (List.mem_cons_of_mem _ member)
      by_cases same : served = number
      · subst same
        rcases (matches_serve beside discreet pure request).causes with
          ⟨leftChain?, rightChain?, leftLinks, rightLinks, chained⟩
        rw [ofCall_cons_self]
        apply induction (beside.both discreet pure request) later
        rw [leftLinks, rightLinks]
        exact alike.extend chained
      · rw [ofCall_cons_of_ne same]
        apply induction (beside.other discreet pure same request) later
        have kept : ((environment.serve ⟨served, policy⟩ request).after here).links.find?
            (.given identity) = _ := find?_serve (own _ List.mem_cons_self same) here
        exact (congrArg (Option.map Failure.unnumbered) kept).trans alike

end Environment

structure Solo (σ : Type) where
  call : Call
  world : World σ

/-- The call is alone under a fresh policy with the same name and configuration. -/
structure Solo.Fresh (calls : Nat → Prop) (policy : Policy) (solo : Solo σ) : Prop where
  member : calls solo.call.number
  name : policy.name = solo.call.policy.name
  config : policy.config = solo.call.policy.config
  opened : solo.world.progressOf solo.call.number = .fresh
  uncounted : solo.world.countersOf solo.call.policy.number = 0

namespace Environment

variable {environment : Environment σ} {calls : Nat → Prop} {policy : Policy}

/-! ## One of the calls that are alone -/

/-- One of several calls is served in its own world. -/
def serveAlone (environment : Environment σ) (served : Nat) (request : Request)
    (solos : Nat → Solo σ) (number : Nat) : Solo σ :=
  if number = served then
    { call := (solos number).call
      world := lastWorld (environment.serve (solos number).call request (solos number).world) }
  else solos number

section ServeAlone

variable (environment) (request : Request) (solos : Nat → Solo σ)

theorem serveAlone_self (served : Nat) : environment.serveAlone served request solos served =
    { call := (solos served).call
      world := lastWorld (environment.serve (solos served).call request (solos served).world) } :=
  if_pos rfl

theorem serveAlone_of_ne {served number : Nat} (different : number ≠ served) :
    environment.serveAlone served request solos number = solos number :=
  if_neg different

@[simp] theorem call_serveAlone (served number : Nat) :
    (environment.serveAlone served request solos number).call = (solos number).call := by
  by_cases same : number = served
  · rw [same, serveAlone_self]
  · rw [serveAlone_of_ne _ _ _ same]

/-- The rest of its turns brings the call to where all of them do. -/
theorem serveAll_serveAlone (served number : Nat) (turns : List (Nat × Request)) :
    (environment.serveAll (solos number).call (ofCall number turns)
      (environment.serveAlone served request solos number).world).2 =
      (environment.serveAll (solos number).call (ofCall number ((served, request) :: turns))
        (solos number).world).2 := by
  by_cases same : number = served
  · rw [same, serveAlone_self, ofCall_cons_self]
    rfl
  · rw [serveAlone_of_ne _ _ _ same, ofCall_cons_of_ne (Ne.symm same)]

variable {environment solos}

theorem Beside.serveAlone (discreet : environment.Discreet calls) (pure : environment.Pure calls)
    (served : Nat) {number : Nat} {here : World σ}
    (beside : Beside calls ⟨number, policy⟩ (solos number).call here (solos number).world) :
    Beside calls ⟨number, policy⟩ (solos number).call
      (lastWorld (environment.serve ⟨served, policy⟩ request here))
      (environment.serveAlone served request solos number).world := by
  by_cases same : number = served
  · subst same
    rw [serveAlone_self]
    exact beside.both discreet pure request
  · rw [serveAlone_of_ne _ _ _ same]
    exact beside.other discreet pure (Ne.symm same) request

end ServeAlone

/-- What the policy counts for all calls is what is counted for each of them alone. -/
theorem counters_beside (discreet : environment.Discreet calls) (pure : environment.Pure calls)
    {numbers : List Nat} (distinct : numbers.Nodup) {turns : List (Nat × Request)}
    (covered : ∀ turn ∈ turns, turn.1 ∈ numbers) {here : World σ} {solos : Nat → Solo σ}
    (besides : ∀ number ∈ numbers,
      Beside calls ⟨number, policy⟩ (solos number).call here (solos number).world) :
    (environment.interleave policy turns here).2.countersOf policy.number +
        (numbers.map fun number =>
          (solos number).world.countersOf (solos number).call.policy.number).sum =
      here.countersOf policy.number +
        (numbers.map fun number =>
          (environment.serveAll (solos number).call (ofCall number turns)
            (solos number).world).2.countersOf (solos number).call.policy.number).sum := by
  induction turns generalizing here solos with
  | nil => rfl
  | cons turn turns induction =>
      rcases turn with ⟨served, request⟩
      have member : served ∈ numbers := covered _ List.mem_cons_self
      rcases (matches_serve (besides served member) discreet pure request).counters with
        ⟨ledger, together, alone⟩
      -- The double of the call that is served goes on in its own world.
      have still : ∀ number ∈ numbers, Beside calls ⟨number, policy⟩
          (environment.serveAlone served request solos number).call
          (lastWorld (environment.serve ⟨served, policy⟩ request here))
          (environment.serveAlone served request solos number).world := by
        intro number member
        rw [call_serveAlone]
        exact (besides number member).serveAlone request discreet pure served
      have rest := induction (fun turn later => covered turn (List.mem_cons_of_mem _ later)) still
      simp only [call_serveAlone, serveAll_serveAlone] at rest
      have counted : (numbers.map fun number =>
          (environment.serveAlone served request solos number).world.countersOf
            (solos number).call.policy.number).sum =
          (numbers.map fun number =>
            (solos number).world.countersOf (solos number).call.policy.number).sum.enter
              ledger := by
        apply Counters.sum_enter distinct member
        · rw [serveAlone_self]
          exact alone
        · intro other different
          rw [serveAlone_of_ne _ _ _ different]
      rw [counted, together, Counters.add_enter, Counters.enter_add] at rest
      exact Counters.enter_injective rest

/-! ## Isolation -/

/-- Calls of one policy are isolated, and the order of their turns does not matter. Let
predicate and interval function be pure, and let listeners cancel none of the calls and
raise ordinary failures at most. Then each call gets the same results and comes equally far
as if its requests were served alone under a fresh policy, up to the numbers of failures
that the engine makes; so do the causes of the failures that it alone reports. The counters
are the sums of what is counted for each call alone, so they are the same for all orders. -/
theorem interleave_isolated (discreet : environment.Discreet calls) (pure : environment.Pure calls)
    {numbers : List Nat} (distinct : numbers.Nodup) (members : ∀ number ∈ numbers, calls number)
    {turns : List (Nat × Request)} (covered : ∀ turn ∈ turns, turn.1 ∈ numbers) {start : World σ}
    (opened : ∀ number ∈ numbers, start.progressOf number = .fresh) {solos : Nat → Solo σ}
    (fresh : ∀ number ∈ numbers, (solos number).Fresh calls policy) :
    let together := environment.interleave policy turns start
    let alone := fun number =>
      environment.serveAll (solos number).call (ofCall number turns) (solos number).world
    (∀ number ∈ numbers,
      (ofCall number together.1).map (·.mapError Failure.unnumbered) =
        (alone number).1.map (·.mapError Failure.unnumbered) ∧
      together.2.progressOf number = (alone number).2.progressOf (solos number).call.number ∧
      ∀ {identity}, CauseLinks.AlikeAt identity start.links (solos number).world.links →
        (∀ turn ∈ turns, turn.1 ≠ number → ∀ {failure}, turn.2.failure? = some failure →
          failure.identity ≠ .given identity) →
        CauseLinks.AlikeAt identity together.2.links (alone number).2.links) ∧
    together.2.countersOf policy.number = start.countersOf policy.number +
      (numbers.map fun number =>
        (alone number).2.countersOf (solos number).call.policy.number).sum ∧
    ∀ {others : List (Nat × Request)}, (∀ turn ∈ others, turn.1 ∈ numbers) →
      (∀ number ∈ numbers, ofCall number others = ofCall number turns) →
      (environment.interleave policy others start).2.countersOf policy.number =
        together.2.countersOf policy.number := by
  intro together alone
  have besides : ∀ number ∈ numbers, Beside calls ⟨number, policy⟩ (solos number).call start
      (solos number).world := by
    intro number member
    have solo := fresh number member
    exact ⟨members number member, solo.member, solo.name, solo.config,
      (opened number member).trans solo.opened.symm⟩
  have nothing : (numbers.map fun number =>
      (solos number).world.countersOf (solos number).call.policy.number).sum = 0 :=
    Counters.sum_eq_zero fun number member => (fresh number member).uncounted
  have counters {order : List (Nat × Request)} (covered : ∀ turn ∈ order, turn.1 ∈ numbers) :
      (environment.interleave policy order start).2.countersOf policy.number =
        start.countersOf policy.number + (numbers.map fun number =>
          (environment.serveAll (solos number).call (ofCall number order)
            (solos number).world).2.countersOf (solos number).call.policy.number).sum := by
    have balance := counters_beside discreet pure distinct covered besides
    rwa [nothing, Counters.add_zero] at balance
  refine ⟨?_, counters covered, ?_⟩
  · intro number member
    rcases interleave_beside discreet pure turns (besides number member) with ⟨results, last⟩
    refine ⟨results, last.progress, ?_⟩
    intro identity alike own
    exact causes_beside discreet pure (besides number member) own alike
  · intro others coveredToo same
    rw [counters coveredToo, counters covered]
    congr 2
    apply List.map_congr_left
    intro number member
    rw [same number member]

end Environment

namespace Environment

/-! ## Two calls whose turns alternate -/

namespace Grumbling

theorem pure (calls : Nat → Prop) : environment.Pure calls where
  predicate _ _ := constant_pure true
  interval _ _ := constant_pure Backoff.defaultDelay
  draw _ _ := constant_pure (0.0 : Float)

def turns : List (Nat × Request) :=
  [(0, { operation := .failure .blocking (.ofMessage (.given 0) .connection "unreachable") }),
    (1, { operation := .failure .blocking (.ofMessage (.given 2) .timeout "too slow")
          interlude := { cancels := true } }),
    (0, { operation := .success }),
    (1, { operation := .cancel })]

def solo : Solo Unit where
  call := { number := 0, policy }
  world := { memory := () }

theorem fresh (calls : Nat → Prop) (member : calls 0) : solo.Fresh calls policy :=
  ⟨member, rfl, rfl, rfl, rfl⟩

end Grumbling

theorem interleave_isolated_grumbling :
    let together := Grumbling.environment.interleave Grumbling.policy Grumbling.turns
      Grumbling.world
    let alone := fun number => Grumbling.environment.serveAll Grumbling.solo.call
      (ofCall number Grumbling.turns) Grumbling.solo.world
    together.2.countersOf 0 = { succeededAfterRetry := 1 } ∧
      together.2.countersOf 0 = Grumbling.world.countersOf 0 +
        ([0, 1].map fun number => (alone number).2.countersOf 0).sum ∧
      ∀ number ∈ [0, 1], (ofCall number together.1).map (·.mapError Failure.unnumbered) =
        (alone number).1.map (·.mapError Failure.unnumbered) := by
  intro together alone
  have covered : ∀ turn ∈ Grumbling.turns, turn.1 ∈ [0, 1] := by simp [Grumbling.turns]
  have opened : ∀ number ∈ [0, 1], Grumbling.world.progressOf number = .fresh := fun _ _ => rfl
  rcases interleave_isolated (Grumbling.discreet fun _ => True) (Grumbling.pure _)
    (by decide : [0, 1].Nodup) (fun _ _ => trivial) covered opened
    (fun _ _ => Grumbling.fresh _ trivial) with ⟨each, counters, -⟩
  refine ⟨by decide, counters, ?_⟩
  intro number member
  exact (each number member).1

/-! ## A listener that stops the next call -/

namespace Contagious

def stop : Failure := .ofMessage (.given 0) .keyboardInterrupt "stop"

def environment : Environment Unit where
  interval _ _ := .answer Backoff.defaultDelay
  predicate _ _ := .answer true
  listener _ listener _ :=
    if listener = "recruiter" then .listen 0 [.retry] "stopper" (.answer ()) else .raise stop
  wait _ _ := .answer ()
  draw _ _ := .answer 0.0
  depth := 0

def policy : Policy where
  number := 0
  name := "backend"
  shared := { number := 0, config := .default }
  publisher := 0
  sleeps := false

def world : World Unit where
  tables := OrderedMap.empty.set 0 (ListenerTable.empty.registerAll [.retry] "recruiter")
  memory := ()

def turns : List (Nat × Request) :=
  [(0, { operation := .failure .blocking (.ofMessage (.given 1) .connection "unreachable") }),
    (1, { operation := .failure .blocking (.ofMessage (.given 2) .timeout "too slow") })]

end Contagious

/-- If a listener raises a failure that is not ordinary, calls need not be isolated: the
second call fails after the first one, but not when it is alone. -/
theorem interleave_contagious :
    Contagious.environment.Pure (fun _ => True) ∧
    (∀ publisher listener event,
      Contagious.environment.listener publisher listener event =
          .listen 0 [.retry] "stopper" (.answer ()) ∨
        Contagious.environment.listener publisher listener event = .raise Contagious.stop) ∧
    ofCall 1 (Contagious.environment.interleave Contagious.policy Contagious.turns
      Contagious.world).1 = [.error Contagious.stop] ∧
    (Contagious.environment.serveAll ⟨1, Contagious.policy⟩ (ofCall 1 Contagious.turns)
      Contagious.world).1 = [.ok ()] := by
  refine ⟨⟨fun _ _ => constant_pure true, fun _ _ => constant_pure Backoff.defaultDelay,
    fun _ _ => constant_pure (0.0 : Float)⟩, ?_, rfl, rfl⟩
  intro publisher listener event
  rw [Contagious.environment]
  dsimp only
  split
  · exact .inl rfl
  · exact .inr rfl

end Environment

end Reattempt
