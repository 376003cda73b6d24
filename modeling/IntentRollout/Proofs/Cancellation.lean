import IntentRollout.Proofs.Operations
import IntentRollout.Proofs.RehearsalRuns
import IntentRollout.Proofs.RollbackLaw

/-! What follows a request for shutdown, whenever it comes. The operation under way is brought to its end,
the next look sees the request, and the tree is put back; nothing else is begun. -/

namespace IntentRollout

/-- What comes after a request for shutdown, what there was before, and how the attempt ends. -/
inductive Aftermath (attempts : Nat) : List Exchange → List Exchange → Outcome → Prop where
  /-- The request was there from the start, and the first look sees it. -/
  | unstarted {time} : Aftermath attempts [] [⟨.shutdown, ⟨true, time⟩⟩] .cancelled
  /-- The request came before a look, or during a wait or a fetch, which it ended. -/
  | struck {front look resets} (observes : look.request.observes = true)
      (told : look.halt? = some .cancelled) (returns : Returning attempts resets) :
      Aftermath attempts (front ++ [look]) resets .cancelled
  /-- The operation under way was brought to its end, and the look after it sees the request. -/
  | seen {front made remaining look resets} (operated : Operation attempts (made ++ remaining))
      (begun : made ≠ [])
      (looks : look.request = .shutdown ∨ ∃ milliseconds, look.request = .wait milliseconds)
      (told : look.halt? = some .cancelled) (returns : Returning attempts resets) :
      Aftermath attempts (front ++ made) (remaining ++ look :: resets) .cancelled
  /-- The operation under way ended the attempt as failed. -/
  | failed {front made remaining resets} (operated : Operation attempts (made ++ remaining))
      (begun : made ≠ []) (returns : Returning attempts resets) :
      Aftermath attempts (front ++ made) (remaining ++ resets) .failed
  /-- The consent that was being asked for was refused. -/
  | declined {front phase time resets} (returns : Returning attempts resets) :
      Aftermath attempts (front ++ [⟨.confirm phase, ⟨false, time⟩⟩]) resets .declined
  /-- The attempt had stopped, and the tree was being put back. -/
  | stopped {front made remaining head result outcome}
      (tried : Tried (.reset head) attempts (made ++ remaining) result) (begun : made ≠ [])
      (unsuccessful : outcome ≠ .succeeded) : Aftermath attempts (front ++ made) remaining outcome

/-- What a request for shutdown does to an attempt, over a line that may be requested on or dropped. -/
structure CancellationLaw (attempts : Nat) (line : Line) (moments : List Moment)
    (conclusion : Conclusion) : Prop where
  aftermath : ∀ earlier later, moments = earlier ++ later → (line.through earlier).isRequested = true →
    Aftermath attempts (earlier.map (·.exchange)) (later.map (·.exchange)) conclusion.outcome
  /-- A wait and a fetch end when the request comes, or at once if it came before. -/
  abandoned : ∀ earlier moment later, moments = earlier ++ moment :: later →
    (line.through (earlier ++ [moment])).isRequested = true →
    ((∃ milliseconds, moment.exchange.request = .wait milliseconds) ∨
      ∃ target, moment.exchange.request = .fetch target) →
    moment.exchange.halt? = some .cancelled ∧
      (((line.through earlier).isRequested = true ∧ moment.now = timeAfter 0 earlier) ∨
        (moment.now, Signal.request) ∈ moment.signals)
  restored : conclusion.outcome = .cancelled → publishes (moments.map (·.exchange)) = true →
    Restored attempts (moments.map (·.exchange))
  reported : conclusion.outcome = .cancelled → ∃ report, conclusion.report = some report ∧
    report.success = false ∧ report.details.phase = some "CANCELLED"
  /-- Without a request the same run comes about whether and whenever the other end hangs up. -/
  dropped : Unrequested line moments → ∀ other others, Unrequested other others → Clocked 0 others →
    others.map (·.exchange) = moments.map (·.exchange) → Watched other 0 others

variable {attempts : Nat} {trace first rest : List Exchange}

private theorem Operation.blind (operated : Operation attempts trace) :
    ∀ exchange ∈ trace, exchange.request.observes = false := by
  intro member inside
  cases operated with
  | none | document | consent | status => simp_all [Request.observes]
  | snapshot tried | publish tried =>
    obtain ⟨reply, rfl⟩ | ⟨milliseconds, reply, rfl⟩ := tried.members member inside <;> rfl

private theorem Operation.consent_alone {phase : Phase} {reply : Timed Bool} (operated : Operation attempts trace)
    (asked : ⟨.confirm phase, reply⟩ ∈ trace) : trace = [⟨.confirm phase, reply⟩] := by
  cases operated with
  | consent => rw [List.mem_singleton.mp asked]
  | none | document | status => simp at asked
  | snapshot tried | publish tried =>
    obtain ⟨_, impossible⟩ | ⟨_, _, impossible⟩ := tried.members _ asked <;> cases impossible

/-- What tells to stop without looking for shutdown refuses consent. -/
theorem Exchange.refuses (exchange : Exchange) {halt : Halt} (blind : exchange.request.observes = false)
    (told : exchange.halt? = some halt) :
    (∃ phase time, exchange = ⟨.confirm phase, ⟨false, time⟩⟩) ∧ halt = .declined := by
  obtain ⟨request, value, time⟩ := exchange
  cases request with
  | confirm phase =>
    cases value with
    | true => cases told
    | false => cases told; exact ⟨⟨phase, time, rfl⟩, rfl⟩
  | shutdown | wait | fetch => cases blind
  | document | snapshot | publish | reset | status | pause => cases told

private theorem mem_of_last {α : Type} {front made remaining other : List α} {item : α} (some : made ≠ [])
    (same : front ++ (made ++ remaining) = other ++ [item]) : item ∈ made ++ remaining := by
  rcases List.eq_nil_or_concat (made ++ remaining) with none | ⟨before, last, ends⟩
  · exact absurd (List.append_eq_nil_iff.mp none).1 some
  · rw [ends, List.concat_eq_append, ← List.append_assoc] at same
    obtain ⟨-, same⟩ := List.append_inj' same rfl
    obtain rfl := List.singleton_inj.mp same
    rw [ends]
    simp

def EndsLooking (trace : List Exchange) : Prop :=
  ∃ front look, trace = front ++ [look] ∧ look.request.observes = true

theorem EndsLooking.append (ends : EndsLooking rest) (first : List Exchange) :
    EndsLooking (first ++ rest) := by
  obtain ⟨front, look, rfl, observes⟩ := ends
  exact ⟨first ++ front, look, (List.append_assoc _ _ _).symm, observes⟩

theorem Entered.ends {rollout : Rollout} {phase : Phase}
    (entered : Entered rollout phase trace (.ok ())) : EndsLooking trace := by
  cases entered with
  | free => exact ⟨[], _, rfl, rfl⟩
  | agreed => exact ⟨[_, _], _, rfl, rfl⟩

private theorem Entered.first_look {rollout : Rollout} {phase : Phase} {result : Except Halt Unit}
    (entered : Entered rollout phase trace result) :
    ∃ look rest, trace = look :: rest ∧ look.request = .shutdown := by
  cases entered <;> exact ⟨_, _, rfl, rfl⟩

namespace Attempt

variable {rollout : Rollout} {started : Instant} {before after : Standing}

theorem Rendering.ends {intent : Intent} {targets : List String} {compilation : Compilation}
    (rendering : Rendering rollout started intent targets before trace (.ok compilation) after) :
    EndsLooking trace := by
  cases rendering with
  | compiled entered => exact entered.ends

theorem Serving.ends {intent : Intent} {compilation : Compilation} {objectives : Gate} {target : String}
    (serving : Serving rollout started intent compilation objectives target before trace (.ok ()) after) :
    EndsLooking trace := by
  cases serving with
  | gated publishing verifying gating =>
    apply EndsLooking.append
    apply EndsLooking.append
    cases gating with
    | rehearsed entered => exact entered.ends
    | passed entered => exact ⟨_, _, rfl, rfl⟩

theorem ServingAll.ends {intent : Intent} {compilation : Compilation} {objectives : Gate}
    {targets : List String} {result : Except Halt Unit}
    (serving : ServingAll rollout started intent compilation objectives targets before trace result after)
    (passed : result = .ok ()) : trace = [] ∨ EndsLooking trace := by
  induction serving with
  | done => exact .inl rfl
  | stopped => cases passed
  | passed serving _ ih =>
    rcases ih passed with rfl | ends
    · rw [List.append_nil]
      exact .inr serving.ends
    · exact .inr (ends.append _)

theorem Driving.ends {source : IntentSource} {requested : List String}
    (driving : Driving rollout started source requested before trace (.ok ()) after) :
    EndsLooking trace := by
  cases driving with
  | served snapshotting validating rendering serving =>
    apply EndsLooking.append
    apply EndsLooking.append
    rcases serving.ends rfl with rfl | ends
    · rw [List.append_nil]
      exact rendering.ends
    · exact ends.append _

private theorem Driving.first_look {source : IntentSource} {requested : List String} {result : Except Halt Unit}
    (driving : Driving rollout started source requested before trace result after) :
    ∃ look rest, trace = look :: rest ∧ look.request = .shutdown := by
  have append_look {first rest : List Exchange}
      (begins : ∃ look rest, first = look :: rest ∧ look.request = .shutdown) :
      ∃ look more, first ++ rest = look :: more ∧ look.request = .shutdown := by
    obtain ⟨look, more, rfl, looks⟩ := begins
    exact ⟨look, more ++ rest, rfl, looks⟩
  have begins {first : List Exchange} {result : Except Halt Unit} {middle : Standing}
      (snapshotting : Snapshotting rollout before first result middle) :
      ∃ look rest, first = look :: rest ∧ look.request = .shutdown := by
    cases snapshotting with
    | halted entered => exact entered.first_look
    | refused entered | taken entered => exact append_look entered.first_look
  cases driving with
  | unremembered snapshotting => exact begins snapshotting
  | invalid snapshotting | unrendered snapshotting | served snapshotting =>
    exact append_look (begins snapshotting)

/-- A drive that ends within an operation failed with it, or was refused consent. -/
theorem Driving.aftermath_of_operation {source : IntentSource} {requested : List String}
    {result : Except Halt Unit} {front made remaining ended : List Exchange}
    (driving : Driving rollout started source requested before (front ++ (made ++ remaining)) result after)
    (operated : Operation rollout.options.retry.attempts (made ++ remaining)) (begun : made ≠ [])
    (returns : Returning rollout.options.retry.attempts ended) :
    Aftermath rollout.options.retry.attempts (front ++ made) (remaining ++ ended) (outcomeOf result) := by
  have heeds := driving.heeds
  cases result with
  | ok =>
    obtain ⟨other, look, same, observes⟩ := driving.ends
    rw [operated.blind look (mem_of_last begun same)] at observes
    cases observes
  | error halt =>
    generalize whole : front ++ (made ++ remaining) = trace at heeds
    cases heeds with
    | failed => exact .failed operated begun returns
    | @told other exchange _ _ halts =>
      have last := mem_of_last begun whole
      obtain ⟨⟨phase, time, rfl⟩, rfl⟩ := exchange.refuses (operated.blind _ last) halts
      obtain ⟨rfl, _⟩ | ⟨rfl, rfl⟩ := List.append_eq_singleton_iff.mp (operated.consent_alone last)
      · exact absurd rfl begun
      · exact .declined returns

/-- Once shutdown is requested, a drive ends with the operation under way or with the look after it. -/
theorem Driving.aftermath {source : IntentSource} {requested : List String} {result : Except Halt Unit}
    {earlier later ended : List Exchange}
    (driving : Driving rollout started source requested before (earlier ++ later) result after)
    (returns : Returning rollout.options.retry.attempts ended)
    (unstarted : earlier = [] → publishes later = false → ended = [])
    (told : ∀ front look rest, earlier ++ later = front ++ look :: rest → earlier.length ≤ front.length + 1 →
      look.request.observes = true → look.halt? = some .cancelled) :
    Aftermath rollout.options.retry.attempts earlier (later ++ ended) (outcomeOf result) := by
  have heeds := driving.heeds
  by_cases begun : earlier = []
  · obtain rfl := begun
    obtain ⟨⟨request, value, time⟩, rest, same, looks⟩ := driving.first_look
    obtain rfl := same
    dsimp only at looks
    obtain rfl := looks
    have halts := told [] _ rest rfl (by simp) rfl
    obtain ⟨rfl, rfl⟩ := heeds.last (show _ = [] ++ _ from rfl) halts
    obtain rfl := unstarted rfl rfl
    cases value with
    | true => exact .unstarted
    | false => cases halts
  · rcases driving.paced.split begun with
      ⟨front, look, rfl, observes⟩ | ⟨front, made, remaining, rest, rfl, rfl, some, operated, paced⟩
    · have split : front ++ [look] ++ later = front ++ look :: later := by simp
      have halts := told front look later split (by simp) observes
      obtain ⟨rfl, rfl⟩ := heeds.last split halts
      exact .struck observes halts returns
    · cases rest with
      | cons look rest =>
        have split : front ++ made ++ (remaining ++ look :: rest) =
            front ++ made ++ remaining ++ look :: rest := by simp
        have looks := paced.head
        have halts := told _ look rest split (by simp; omega) (Paced.observes looks)
        obtain ⟨rfl, rfl⟩ := heeds.last split halts
        rw [List.append_assoc]
        exact .seen operated some looks halts returns
      | nil =>
        rw [List.append_nil, List.append_assoc] at driving
        rw [List.append_nil]
        exact driving.aftermath_of_operation operated some returns

end Attempt

theorem Attempt.Concluding.reported {rollout : Rollout} {started : Instant} {result : Except Halt Unit}
    {standing : Standing} {conclusion : Conclusion}
    (concluding : Attempt.Concluding rollout started result standing trace conclusion)
    (cancelled : conclusion.outcome = .cancelled) : ∃ report, conclusion.report = some report ∧
      report.success = false ∧ report.details.phase = some "CANCELLED" := by
  cases concluding with
  | cancelled tidying =>
    refine ⟨_, rfl, rfl, ?_⟩
    dsimp only [Attempt.conclusionOf]
    rw [tidying.details_eq]
    rfl
  | succeeded | failed | forgone | declined => cases cancelled

private theorem Rollout.aftermath {rollout : Rollout} {started : Instant} {source : IntentSource}
    {requested : List String} {line : Line} {earlier later : List Moment} {conclusion : Conclusion}
    (ran : (rollout.plan started source requested).Run ((earlier ++ later).map (·.exchange)) conclusion)
    (watched : Watched line 0 (earlier ++ later)) (asked : (line.through earlier).isRequested = true) :
    Aftermath rollout.options.retry.attempts (earlier.map (·.exchange)) (later.map (·.exchange))
      conclusion.outcome := by
  obtain ⟨driven, result, standing, ended, whole, driving, concluding⟩ := Rollout.run_plan ran
  have ends := concluding.returns driving.driven
  have returns : Returning rollout.options.retry.attempts ended := ends.imp id fun tried => tried.2.2
  have within {more : List Exchange} (drive : driven = earlier.map (·.exchange) ++ more)
      (rest : later.map (·.exchange) = more ++ ended) :
      Aftermath rollout.options.retry.attempts (earlier.map (·.exchange)) (later.map (·.exchange))
        conclusion.outcome := by
    rw [rest, concluding.outcome_eq]
    obtain rfl := drive
    apply driving.aftermath returns
    · intro unstarted quiet
      rcases ends with none | ⟨published, _⟩
      · exact none
      · rw [unstarted, List.nil_append, quiet] at published
        cases published
    · intro front look after split reached observes
      have cut : (earlier ++ later).map (·.exchange) = front ++ look :: (after ++ ended) := by
        rw [whole, split, List.append_assoc, List.cons_append]
      exact watched.told_exchange asked cut (by simpa using reached) observes
  rw [List.map_append] at whole
  rcases List.append_eq_append_iff.mp whole with ⟨more, drive, rest⟩ | ⟨begun, drive, rest⟩
  · exact within drive rest
  · by_cases none : begun = []
    · obtain rfl := none
      rw [List.append_nil] at drive
      exact within (by rw [drive, List.append_nil]) (show _ = [] ++ ended from rest.symm)
    · rcases ends with rfl | ⟨_, stopped, head, restoring, tried⟩
      · exact absurd (List.append_eq_nil_iff.mp rest.symm).1 none
      · rw [rest] at tried
        rw [drive]
        exact .stopped tried none stopped

/-- Whenever shutdown is requested, the operation under way is brought to its end and the tree put back. -/
theorem Rollout.cancellation {rollout : Rollout} {started : Instant} {source : IntentSource}
    {requested : List String} {line : Line} {moments : List Moment} {conclusion : Conclusion}
    (ran : (rollout.plan started source requested).Run (moments.map (·.exchange)) conclusion)
    (watched : Watched line 0 moments) :
    CancellationLaw rollout.options.retry.attempts line moments conclusion := by
  refine ⟨?_, ?_, ?_, ?_, ?_⟩
  · intro earlier later split asked
    obtain rfl := split
    exact Rollout.aftermath ran watched asked
  · intro earlier moment later split asked ends
    obtain rfl := split
    obtain ⟨milliseconds, waits⟩ | ⟨target, fetches⟩ := ends
    · obtain ⟨halts, heard⟩ := watched.told asked (by rw [waits]; rfl)
      exact ⟨halts, heard (by simp [waits])⟩
    · obtain ⟨halts, heard⟩ := watched.told asked (by rw [fetches]; rfl)
      exact ⟨halts, heard (by simp [fetches])⟩
  · intro cancelled published
    exact Rollout.restored_of_published ran published (by rw [cancelled]; decide)
  · intro cancelled
    obtain ⟨driven, result, standing, ended, _, _, concluding⟩ := Rollout.run_plan ran
    exact concluding.reported cancelled
  · intro unrequested other others unrequested' clocked same
    exact ⟨clocked, watched.answered.of_unrequested unrequested unrequested' same⟩

/-- Shutdown is requested while the second target is published, which takes two tries. -/
def Rehearsal.requestedMidway : Rehearsal where
  script := { metrics := Table.ofList [("edge1", .fast)], interruption := .on "publish:edge2" }
  effects := Table.ofList [("publish:edge2", [.refused (.task "lost")])]

theorem Rollout.cancellation_midway :
    (Rehearsal.requestedMidway.run Rollout.unattended.both).1.outcome = .cancelled ∧
      CancellationLaw 3 .quiet (Rehearsal.moments Rollout.unattended.both Rehearsal.requestedMidway)
        (Rehearsal.requestedMidway.run Rollout.unattended.both).1 := by
  have ran := Rehearsal.requestedMidway.ran Rollout.unattended.both
  rw [← Rehearsal.moments_exchange] at ran
  have watched := Rehearsal.watched Rollout.unattended.both Rehearsal.requestedMidway (by decide +kernel)
  exact ⟨by decide +kernel, Rollout.cancellation ran watched⟩

def Rehearsal.requestedLate : Rehearsal where
  script := { interruption := .on "reset" }
  effects := Table.ofList [("publish:edge1", [.refused (.missingSite "edge1")])]

/-- An attempt that has failed stays failed, though shutdown is requested while its tree is put back. -/
theorem Rollout.failed_though_requested :
    Rollout.unattended.both.Run
        ((Rehearsal.moments Rollout.unattended.both Rehearsal.requestedLate).map (·.exchange))
        (Rehearsal.requestedLate.run Rollout.unattended.both).1 ∧
      Watched .quiet 0 (Rehearsal.moments Rollout.unattended.both Rehearsal.requestedLate) ∧
      (Line.quiet.through
        (Rehearsal.moments Rollout.unattended.both Rehearsal.requestedLate).dropLast).isRequested = false ∧
      (Line.quiet.through
        (Rehearsal.moments Rollout.unattended.both Rehearsal.requestedLate)).isRequested = true ∧
      ((Rehearsal.moments Rollout.unattended.both Rehearsal.requestedLate).getLast?.map
        fun moment => moment.exchange.request.isReset) = some true ∧
      ((Rehearsal.requestedLate.run Rollout.unattended.both).1.report.map
        fun report => (report.details.phase, report.details.target, report.details.rollback)) =
          some (some "PUBLISH", some "edge1", some ⟨true, none⟩) ∧
      (Rehearsal.requestedLate.run Rollout.unattended.both).1.outcome = .failed := by
  have ran := Rehearsal.requestedLate.ran Rollout.unattended.both
  rw [← Rehearsal.moments_exchange] at ran
  have watched := Rehearsal.watched Rollout.unattended.both Rehearsal.requestedLate (by decide +kernel)
  exact ⟨ran, watched, by decide +kernel, by decide +kernel, by decide +kernel, by decide +kernel,
    by decide +kernel⟩

end IntentRollout
