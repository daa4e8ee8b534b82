import LibNfs.Lib.Prog
import Mathlib.Data.List.Basic

/-! # Listing in pages

Entries with keys that are all different are handed out in runs. A place in them is
the key of an entry, for what follows it, or a key of none, for all of them. The last
key of a run is the place where the run stops. With each run comes a token, which the
server wants back with the place to go on from.
-/

namespace Paging

variable {α κ : Type} [DecidableEq κ] {key : α → κ} {start : κ}

/-- The entries that follow a place. -/
def after (key : α → κ) (start : κ) (entries : List α) (place : κ) : List α :=
  if place = start then entries else (entries.dropWhile (key · ≠ place)).tail

/-- A run of the entries that follow a place: one at least, if there are any. The end is
announced exactly when it is reached. -/
structure IsPage (following run : List α) (eof : Bool) : Prop where
  starts : run <+: following
  some : following ≠ [] → run ≠ []
  reached : eof = true ↔ run = following

/-- The places that the key of an entry and the start are. -/
structure Distinct (key : α → κ) (start : κ) (entries : List α) : Prop where
  nodup : (entries.map key).Nodup
  apart : start ∉ entries.map key

theorem after_start (entries : List α) : after key start entries start = entries := by
  unfold after
  exact if_pos rfl

/-- What follows the key of an entry is what comes after the entry. -/
theorem after_key {before rest : List α} {entry : α}
    (distinct : Distinct key start (before ++ entry :: rest)) :
    after key start (before ++ entry :: rest) (key entry) = rest := by
  have named : key entry ≠ start := by
    intro same
    apply distinct.apart
    rw [← same]
    exact List.mem_map_of_mem (List.mem_append_right _ List.mem_cons_self)
  have skipped : ∀ other ∈ before, decide (key other ≠ key entry) = true := by
    intro other member
    have nodup := distinct.nodup
    rw [List.map_append, List.nodup_append] at nodup
    apply decide_eq_true
    apply nodup.2.2
    · exact List.mem_map_of_mem member
    · exact List.mem_map_of_mem List.mem_cons_self
  rw [after, if_neg named, List.dropWhile_append_of_pos skipped,
    List.dropWhile_cons_of_neg (by simp), List.tail_cons]

/-- A page that is not the last one: the key of its last entry is where it stops. -/
theorem IsPage.advance {done following run : List α} {eof : Bool}
    (distinct : Distinct key start (done ++ following)) (page : IsPage following run eof)
    (more : run ≠ []) :
    ∃ last rest, run.getLast? = Option.some last ∧ following = run ++ rest ∧
      after key start (done ++ following) (key last) = rest := by
  obtain ⟨rest, rfl⟩ := page.starts
  have split := List.dropLast_concat_getLast more
  refine ⟨run.getLast more, rest, List.getLast?_eq_some_getLast more, rfl, ?_⟩
  have whole : done ++ (run ++ rest) = (done ++ run.dropLast) ++ run.getLast more :: rest := by
    rw [List.append_assoc, ← List.singleton_append, ← List.append_assoc run.dropLast, split]
  rw [whole] at distinct ⊢
  exact after_key distinct

section Map

variable {β : Type} {shown : α → β} {key' : β → κ}

omit [DecidableEq κ] in
theorem map_key (same : ∀ entry, key' (shown entry) = key entry) (entries : List α) :
    (entries.map shown).map key' = entries.map key := by
  rw [List.map_map]
  exact List.map_congr_left fun entry _ => same entry

omit [DecidableEq κ] in
theorem Distinct.map {entries : List α} (distinct : Distinct key start entries)
    (same : ∀ entry, key' (shown entry) = key entry) :
    Distinct key' start (entries.map shown) := by
  constructor
  · rw [map_key same]
    exact distinct.nodup
  · rw [map_key same]
    exact distinct.apart

theorem after_map (same : ∀ entry, key' (shown entry) = key entry) (entries : List α) (place : κ) :
    after key' start (entries.map shown) place = (after key start entries place).map shown := by
  unfold after
  split
  · rfl
  · rw [List.dropWhile_map, ← List.map_tail]
    simp only [Function.comp_def, same]

theorem IsPage.map {following run : List α} {eof : Bool} (page : IsPage following run eof)
    (shown : α → β) : IsPage (following.map shown) (run.map shown) eof := by
  obtain ⟨rest, rfl⟩ := page.starts
  refine ⟨(List.prefix_append run rest).map shown, fun more => ?_, page.reached.trans ?_⟩
  · intro empty
    apply page.some
    · intro nothing
      apply more
      rw [nothing, List.map_nil]
    · exact List.map_eq_nil_iff.mp empty
  · rw [List.map_append, List.self_eq_append_right, List.self_eq_append_right, List.map_eq_nil_iff]

end Map

/-- A run of entries, and the token to go on with. -/
structure Page (ν α : Type) where
  token : ν
  run : List α
  eof : Bool

/-- A request that a server has to answer: for the start, or for the key of an entry with the
token that it wants back. -/
def Entitled {ν : Type} (key : α → κ) (start : κ) (entries : List α) (required : Option ν)
    (place : κ) (token : ν) : Prop :=
  place = start ∨ place ∈ entries.map key ∧ required = Option.some token

/-- As long as it is ready, a server answers with pages of the entries; `view` is what there
is of a page in an answer. -/
def Serves {σ ε ν π : Type} (fetch : κ → ν → Prog σ ε π) (view : π → Page ν α) (key : α → κ)
    (start : κ) (entries : List α) (ready : σ → Prop) (required : σ → Option ν) : Prop :=
  ∀ place token state, ready state → Entitled key start entries (required state) place token →
    ∃ answer next, (fetch place token).run state = Option.some (.ok answer, next) ∧
      IsPage (after key start entries place) (view answer).run (view answer).eof ∧
      ready next ∧ required next = Option.some (view answer).token

/-- Answers that are handed on by a part of a larger state, with their entries shown
differently. -/
theorem Serves.refine {σ σ' ε ε' ν π π' β : Type} {fetch : κ → ν → Prog σ ε π}
    {fetch' : κ → ν → Prog σ' ε' π'} {view : π → Page ν α} {view' : π' → Page ν β}
    {entries : List α} {ready : σ → Prop} {ready' : σ' → Prop} {required : σ → Option ν}
    {part : σ' → σ} {shown : α → β} {key' : β → κ}
    (serves : Serves fetch view key start entries ready required)
    (same : ∀ entry, key' (shown entry) = key entry)
    (within : ∀ state, ready' state → ready (part state))
    (hands : ∀ place token state answer next, ready' state →
      (fetch place token).run (part state) = Option.some (.ok answer, next) → ready next →
      ∃ answer' next', (fetch' place token).run state = Option.some (.ok answer', next') ∧
        part next' = next ∧ ready' next' ∧ view' answer' =
          ⟨(view answer).token, (view answer).run.map shown, (view answer).eof⟩) :
    Serves fetch' view' key' start (entries.map shown) ready' (required ∘ part) := by
  intro place token state isReady entitled
  have asked : Entitled key start entries (required (part state)) place token := by
    unfold Entitled at entitled
    rwa [map_key same] at entitled
  obtain ⟨answer, next, ran, page, nextReady, wants⟩ :=
    serves place token (part state) (within state isReady) asked
  obtain ⟨answer', next', ran', rfl, nextReady', seen⟩ :=
    hands place token state answer next isReady ran nextReady
  refine ⟨answer', next', ran', ?_, nextReady', ?_⟩
  · rw [seen, after_map same]
    exact page.map shown
  · rw [seen]
    exact wants

end Paging
