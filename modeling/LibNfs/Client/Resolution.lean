import LibNfs.Client.Context

/-! # The resolution of paths

What path resolution does to the state of a backend: it only looks names up and
reads links.
-/

namespace LibNfs.Client

namespace NfsContext

variable {σ : Type} {backend : Backend σ} {root : ObjId} {invariant : σ → Prop}

theorem keeps_walk {followFinal : Bool}
    {follow : ObjId → ObjId → List String → Prog σ NfsError ObjId}
    (lookup : ∀ dir name, (backend.lookup dir name).Keeps invariant)
    (follows : ∀ cur fh comps, (follow cur fh comps).Keeps invariant) (cur : ObjId)
    (comps : List String) : (walk backend followFinal follow cur comps).Keeps invariant := by
  induction comps generalizing cur with
  | nil => exact Prog.Keeps.pure _
  | cons name comps ih =>
      rw [walk]
      split
      · exact ih cur
      · refine Prog.Keeps.bind (lookup cur name) fun found => ?_
        dsimp only
        split
        · exact follows _ _ _
        · exact ih _

/-- Resolving a path keeps what looking names up and reading links keep. -/
theorem keeps_resolve (lookup : ∀ dir name, (backend.lookup dir name).Keeps invariant)
    (readlink : ∀ fh, (backend.readlink fh).Keeps invariant) (path : String)
    (followFinal : Bool) : (resolve backend root path followFinal).Keeps invariant := by
  suffices every : ∀ links cur comps,
      (resolveFrom backend root followFinal links cur comps).Keeps invariant from every _ _ _
  intro links
  induction links with
  | zero => exact keeps_walk lookup fun _ _ _ => Prog.Keeps.throw _
  | succ links ih =>
      exact keeps_walk lookup fun cur fh comps =>
        Prog.Keeps.bind (readlink fh) fun target => ih _ _

end NfsContext

end LibNfs.Client
