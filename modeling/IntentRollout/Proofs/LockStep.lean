import IntentRollout.Proofs.PlanRuns

/-! Plans in lock step. One plan asks for consent where the other goes on; apart from that both make the same
requests. In a world in which a look changes nothing, and with consent to everything, they do the same to it. -/

namespace IntentRollout

/-- What requests are answered by. A look whether shutdown is requested takes no time and changes nothing. -/
structure World (σ : Type) where
  answer : (request : Request) → StateM σ (Timed request.Reply)
  clock : σ → Nat
  look : ∀ state, (answer .shutdown state).2 = state ∧ (answer .shutdown state).1.now = clock state

def Request.consults : Request → Bool
  | .confirm _ => true
  | .shutdown => true
  | _ => false

namespace World

variable {σ μ α : Type}

def advised (world : World σ) (adviser : Phase → StateM μ Bool) : World (σ × μ) where
  answer
    | .confirm phase => fun (state, mind) =>
      let (consent, after) := adviser phase mind
      (⟨consent, world.clock state⟩, (state, after))
    | request => fun (state, mind) =>
      let (reply, after) := world.answer request state
      (reply, (after, mind))
  clock := fun (state, _) => world.clock state
  look := fun (state, _) =>
    ⟨Prod.ext (world.look state).1 rfl, (world.look state).2⟩

def run (world : World σ) (plan : Plan α) (state : σ) : α × σ := plan.run world.answer state

/-- What is done to a world: the requests other than those whether to go on, with the replies and with the time at
which each was made. -/
def calls (world : World σ) : Plan α → σ → List (Nat × Exchange)
  | .done _, _ => []
  | .ask request next, state =>
    let (reply, after) := world.answer request state
    let rest := world.calls (next reply) after
    if request.consults then rest else (world.clock state, ⟨request, reply⟩) :: rest

variable {world : World σ} {request : Request} {next : Timed request.Reply → Plan α} {state after : σ}
  {reply : Timed request.Reply}

theorem run_ask (answer : world.answer request state = (reply, after)) :
    world.run (.ask request next) state = world.run (next reply) after := by
  change world.run (next (world.answer request state).1) (world.answer request state).2 = _
  rw [answer]

private theorem calls_call (call : request.consults = false) (answer : world.answer request state = (reply, after)) :
    world.calls (.ask request next) state =
      (world.clock state, ⟨request, reply⟩) :: world.calls (next reply) after := by
  rw [calls, answer]
  exact if_neg (by rw [call]; exact Bool.false_ne_true)

private theorem calls_consult (consults : request.consults = true)
    (answer : world.answer request state = (reply, after)) :
    world.calls (.ask request next) state = world.calls (next reply) after := by
  rw [calls, answer]
  exact if_pos consults

private theorem exchanges_ask (answer : world.answer request state = (reply, after)) :
    (Plan.ask request next).exchanges world.answer state =
      ⟨request, reply⟩ :: (next reply).exchanges world.answer after := by
  rw [Plan.exchanges, answer]

variable (world state) (adviser : Phase → StateM μ Bool) (mind : μ)

private theorem advised_answer (plain : ∀ phase, request ≠ .confirm phase) :
    (world.advised adviser).answer request (state, mind) =
      ((world.answer request state).1, ((world.answer request state).2, mind)) := by
  cases request with
  | confirm phase => exact absurd rfl (plain phase)
  | _ => rfl

private theorem look_eq : world.answer .shutdown state = ((world.answer .shutdown state).1, state) :=
  Prod.ext rfl (world.look state).1

private theorem advised_look : (world.advised adviser).answer .shutdown (state, mind) =
    ((world.answer .shutdown state).1, (state, mind)) :=
  Prod.ext rfl (Prod.ext (world.look state).1 rfl)

private theorem advised_confirm (phase : Phase) : (world.advised adviser).answer (.confirm phase) (state, mind) =
    (⟨(adviser phase mind).1, world.clock state⟩, (state, (adviser phase mind).2)) := rfl

end World

def Granted (trace : List Exchange) : Prop :=
  ∀ phase reply, (⟨.confirm phase, reply⟩ : Exchange) ∈ trace → reply.value = true

theorem Granted.tail {exchange : Exchange} {trace : List Exchange} (granted : Granted (exchange :: trace)) :
    Granted trace := fun phase reply member => granted phase reply (List.mem_cons_of_mem _ member)

/-- An adviser who always says yes gives all consent. -/
theorem granted_of_consents {σ μ α : Type} (world : World σ) {adviser : Phase → StateM μ Bool}
    (consents : ∀ phase mind, (adviser phase mind).1 = true) (plan : Plan α) (state : σ) (mind : μ) :
    Granted (plan.exchanges (world.advised adviser).answer (state, mind)) := by
  induction plan generalizing state mind with
  | done value => exact nofun
  | ask request next ih =>
    intro phase reply member
    rcases List.mem_cons.mp member with first | later
    · cases first
      exact consents phase mind
    · exact ih _ _ _ phase reply later

namespace Plan

variable {α β γ δ σ μ : Type}

private theorem bind_done (plan : Plan α) : plan.bind .done = plan := by
  induction plan with
  | done value => rfl
  | ask request next ih => exact congrArg (Plan.ask request) (funext ih)

theorem bind_bind (plan : Plan α) (next : α → Plan β) (last : β → Plan γ) :
    (plan.bind next).bind last = plan.bind fun value => (next value).bind last := by
  induction plan with
  | done value => rfl
  | ask request rest ih => exact congrArg (Plan.ask request) (funext ih)

instance : LawfulMonad Plan := LawfulMonad.mk' Plan bind_done (fun _ _ => rfl) bind_bind

section

variable (environment : (request : Request) → StateM σ (Timed request.Reply))

theorem exchanges_bind (plan : Plan α) (next : α → Plan β) (state : σ) :
    (plan.bind next).exchanges environment state = plan.exchanges environment state ++
      (next (plan.run environment state).1).exchanges environment (plan.run environment state).2 := by
  induction plan generalizing state with
  | done value => rfl
  | ask request rest ih => exact congrArg _ (ih _ _)

theorem run_bind (plan : Plan α) (next : α → Plan β) (state : σ) :
    (plan.bind next).run environment state =
      (next (plan.run environment state).1).run environment (plan.run environment state).2 := by
  induction plan generalizing state with
  | done value => rfl
  | ask request rest ih => exact ih _ _

end

/-- A plan that asks for consent between two looks where another one looks once, and that is like the other one
everywhere else. -/
inductive Mirrors (related : α → β → Prop) : Plan α → Plan β → Prop where
  | done {value : α} {other : β} (same : related value other) : Mirrors related (.done value) (.done other)
  | ask {request : Request} {next : Timed request.Reply → Plan α} {rest : Timed request.Reply → Plan β}
    (plain : ∀ phase, request ≠ .confirm phase) (each : ∀ reply, Mirrors related (next reply) (rest reply)) :
    Mirrors related (.ask request next) (.ask request rest)
  | consulted {next : Timed Bool → Plan α} {rest : Timed Bool → Plan β} (phase : Phase)
    (answered : Timed Bool → Timed Bool → Plan α) (again : Timed Bool → Timed Bool → Timed Bool → Plan α)
    (stops : ∀ first, first.value = true → Mirrors related (next first) (rest first))
    (asks : ∀ first, first.value = false → next first = .ask (.confirm phase) (answered first))
    (looks : ∀ first answer, answer.value = true → answered first answer = .ask .shutdown (again first answer))
    (goes : ∀ first answer, first.value = false → Mirrors related (again first answer first) (rest first)) :
    Mirrors related (.ask .shutdown next) (.ask .shutdown rest)

variable {related : α → β → Prop} {one : Plan α} {other : Plan β}

theorem Mirrors.bind {further : γ → δ → Prop} (mirrors : Mirrors related one other) {next : α → Plan γ}
    {rest : β → Plan δ} (each : ∀ value value', related value value' → Mirrors further (next value) (rest value')) :
    Mirrors further (one.bind next) (other.bind rest) := by
  induction mirrors with
  | done same => exact each _ _ same
  | ask plain _ ih => exact .ask plain ih
  | consulted phase answered again _ asks looks _ ihStops ihGoes =>
    refine .consulted phase (fun first answer => (answered first answer).bind next)
      (fun first answer second => (again first answer second).bind next) ihStops ?_ ?_ ihGoes
    · intro first quiet
      rw [asks first quiet]
      rfl
    · intro first answer consent
      rw [looks first answer consent]
      rfl

/-- As long as consent is not asked for, mirrored plans cannot be told apart. -/
theorem Mirrors.same (mirrors : Mirrors related one other)
    {environment : (request : Request) → StateM σ (Timed request.Reply)} {state : σ}
    (unasked : ∀ exchange ∈ one.exchanges environment state, ∀ phase, exchange.request ≠ .confirm phase) :
    one.exchanges environment state = other.exchanges environment state ∧
      related (one.run environment state).1 (other.run environment state).1 ∧
      (one.run environment state).2 = (other.run environment state).2 := by
  induction mirrors generalizing state with
  | done same => exact ⟨rfl, same, rfl⟩
  | ask plain _ ih =>
    obtain ⟨trace, values, states⟩ := ih _ fun exchange member => unasked exchange (List.mem_cons_of_mem _ member)
    exact ⟨congrArg _ trace, values, states⟩
  | consulted phase answered again _ asks _ _ ihStops _ =>
    have later := fun exchange member => unasked exchange (List.mem_cons_of_mem _ member)
    cases stop : (environment .shutdown state).1.value with
    | true =>
      obtain ⟨trace, values, states⟩ := ihStops _ stop later
      exact ⟨congrArg _ trace, values, states⟩
    | false =>
      rw [asks _ stop] at later
      exact absurd rfl (later _ List.mem_cons_self phase)

/-- With consent to everything, mirrored plans do the same to a world and come to related values. -/
theorem Mirrors.run (mirrors : Mirrors related one other) (world : World σ) (adviser : Phase → StateM μ Bool)
    (state : σ) (mind : μ) (granted : Granted (one.exchanges (world.advised adviser).answer (state, mind))) :
    (world.advised adviser).calls one (state, mind) = world.calls other state ∧
      related ((world.advised adviser).run one (state, mind)).1 (world.run other state).1 ∧
      ((world.advised adviser).run one (state, mind)).2.1 = (world.run other state).2 := by
  induction mirrors generalizing state mind with
  | done same => exact ⟨rfl, same, rfl⟩
  | @ask request next rest plain _ ih =>
    have answer := world.advised_answer state adviser mind plain
    rw [World.exchanges_ask answer] at granted
    have onward := ih _ _ _ granted.tail
    cases consults : request.consults with
    | true =>
      rw [World.calls_consult consults answer, World.calls_consult consults rfl, World.run_ask answer]
      exact onward
    | false =>
      rw [World.calls_call consults answer, World.calls_call consults rfl, World.run_ask answer, onward.1]
      exact ⟨rfl, onward.2⟩
  | consulted phase answered again _ asks looks _ ihStops ihGoes =>
    have looked := world.look_eq state
    have look := world.advised_look state adviser
    rw [World.exchanges_ask (look mind)] at granted
    rw [World.calls_consult rfl (look mind), World.run_ask (look mind), World.calls_consult rfl looked,
      World.run_ask looked]
    cases stop : (world.answer .shutdown state).1.value with
    | true => exact ihStops _ stop state mind granted.tail
    | false =>
      have asked := world.advised_confirm state adviser mind phase
      rw [asks _ stop, World.exchanges_ask asked] at granted
      have consent := granted.tail phase _ List.mem_cons_self
      rw [looks _ _ consent, World.exchanges_ask (look _)] at granted
      rw [asks _ stop, World.calls_consult rfl asked, World.run_ask asked, looks _ _ consent,
        World.calls_consult rfl (look _), World.run_ask (look _)]
      exact ihGoes _ _ stop state _ granted.tail.tail.tail

end Plan

end IntentRollout
