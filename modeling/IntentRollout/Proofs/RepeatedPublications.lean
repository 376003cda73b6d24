import IntentRollout.CommandLine.Host
import IntentRollout.Proofs.PublicationTries

/-! Publications that an orchestrator tries again. On its host the tries do to a checkout what they do to it alone, so
what an attempt is told in the end is what the tries in turn come to; after a lost one it knows of no commit at all. -/

namespace IntentRollout

namespace CommandLine.Sources

variable {m : Type → Type} [Monad m]

theorem run_ask (terminal : Terminal m) (sources : Sources) (request : Request) (now : Nat) (host : Host) :
    Plan.run (environment terminal sources) (Timeline.ask request now) host =
      environment terminal sources request host >>= fun (reply, host) => pure ((reply.value, reply.now), host) :=
  rfl

variable [LawfulMonad m]

end CommandLine.Sources

namespace DeliveryTree

/-- What is told of a publication in the end, and the head that there is then. A commit that is told is the head and
has the files. If none is told, the head has them, and it has not moved unless a try was lost. -/
structure Told (tree : DeliveryTree) (site : String) (files : List RenderedFile) (message : String)
    (before : Checkout) (starts : List Checkout) (result : Except DeliveryError (Option String)) (after : Checkout) :
    Prop where
  committed : ∀ revision, result = .ok (some revision) → ∃ number, after.head? = some number ∧
    revision = Repository.revision number ∧ tree.HeadHolds site files after
  held : result = .ok none → tree.HeadHolds site files after
  unmoved : result = .ok none →
    (after.head? = before.head? ↔ ∀ start ∈ starts, ¬ tree.Lost site files message start)

variable {tree : DeliveryTree} {site message : String} {files : List RenderedFile} {before after : Checkout}
  {starts : List Checkout} {result : Except DeliveryError (Option String)}

theorem Settled.told (settled : Settled tree site files message before starts result after) :
    Told tree site files message before starts result after := by
  refine ⟨settled.committed, settled.unchanged, ?_⟩
  rintro rfl
  refine ⟨fun same start member lost => settled.moved ⟨start, member, lost⟩ same, settled.unmoved nofun⟩

end DeliveryTree

namespace CommandLine.Sources

open DeliveryTree

def treeAlone : Sources := ⟨twoSites, {}, {}⟩

def failing (mishaps : List Bool) : Host where
  checkout := { Checkout.ofSites {} "/tree" "operator" "start" ["edge1", "edge2"] with mishaps }
  start := ⟨0, 0⟩

def silent : Terminal Id := ⟨fun _ => (), fun _ => (), ""⟩

def oneFile : List RenderedFile := [⟨"a.yaml", .configMap, "a: 1"⟩]

def delivered (mishaps : List Bool) : (Except DeliveryError (Option String) × Nat) × Host :=
  Plan.run (environment silent treeAlone)
    (Timeline.deliver (.ofAttempts 3 1000 10000) (Timeline.ask (.publish "edge1" oneFile "first")) 0) (failing mishaps)

instance (checkout : Checkout) : Decidable checkout.Recorded :=
  inferInstanceAs (Decidable (∀ repository ∈ checkout.repository, ∀ number ∈ repository.head, _))

end CommandLine.Sources

end IntentRollout
