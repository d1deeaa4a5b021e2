import PullWatch.Discovery.Cache
import PullWatch.Proofs.LooseTime
import Mathlib.Data.List.Basic

/-!
# Names of queries

The cache names a query by a text: the states and the cutoff of a listing of pull requests, or the
commit whose check runs are listed. Different queries have different names, whatever lists of
states, times and commits they are about.

## Main results

* `Cache.pullsKey_inj`: the name of a listing of pull requests tells states and cutoff.
* `Cache.checksKey_inj`: the name of a listing of check runs tells the commit.
-/

namespace PullWatch

theorem Instant.rfc3339_ne_empty (t : Instant) : t.rfc3339 ≠ "" := by
  intro h
  have hread := t.parseLoose_rfc3339
  rw [h] at hread
  cases hread

theorem PullState.name_inj {a b : PullState} : a.name = b.name ↔ a = b := by
  constructor
  · intro h
    rw [← Option.some.injEq, ← ofName?_name a, h, ofName?_name]
  · rintro rfl
    rfl

/-- The names of states are words of small letters. -/
theorem PullState.isLower_of_mem_name (s : PullState) : ∀ c ∈ s.name.toList, c.isLower = true := by
  intro c hc
  cases s <;>
  · simp only [PullState.name, String.reduceToList, List.mem_cons, List.not_mem_nil, or_false] at hc
    rcases hc with rfl | rfl | rfl | rfl | rfl | rfl <;> decide

namespace Cache

/-- The states as the name of a listing gives them. -/
def statesText (states : List PullState) : String :=
  String.intercalate "," (states.map PullState.name)

theorem toList_statesText (states : List PullState) :
    (statesText states).toList = [','].intercalate (states.map fun s => s.name.toList) := by
  rw [statesText, String.toList_intercalate, List.map_map]
  rfl

/-- The states end where the cutoff begins. -/
theorem ne_ampersand_of_mem_statesText (states : List PullState) :
    ∀ c ∈ (statesText states).toList, c ≠ '&' := by
  rw [toList_statesText]
  induction states with
  | nil => simp [List.intercalate]
  | cons s rest ih =>
    have hs : ∀ c ∈ s.name.toList, c ≠ '&' := by
      rintro c hc rfl
      exact absurd (s.isLower_of_mem_name _ hc) (by decide)
    cases rest with
    | nil => simpa only [List.map_cons, List.map_nil, List.intercalate_singleton] using hs
    | cons t rest =>
      rw [List.map_cons, List.map_cons, List.intercalate_cons_cons]
      intro c hc
      rcases List.mem_append.1 hc with hc | hc
      · rcases List.mem_append.1 hc with hc | hc
        · exact hs c hc
        · rw [List.mem_singleton.1 hc]
          decide
      · exact ih c hc

theorem splitOn_statesText {states : List PullState} (h : states ≠ []) :
    (statesText states).toList.splitOn ',' = states.map fun s => s.name.toList := by
  rw [toList_statesText]
  refine List.splitOn_intercalate ',' (fun l hl hmem => ?_) (by simpa using h)
  obtain ⟨s, -, rfl⟩ := List.mem_map.1 hl
  exact absurd (s.isLower_of_mem_name _ hmem) (by decide)

theorem statesText_eq_empty_iff {states : List PullState} : statesText states = "" ↔ states = [] := by
  refine ⟨fun h => ?_, fun h => by rw [h]; rfl⟩
  by_contra hne
  have hsplit := splitOn_statesText hne
  rw [h] at hsplit
  obtain ⟨s, rest, rfl⟩ := List.exists_cons_of_ne_nil hne
  cases s <;> simp [PullState.name] at hsplit

theorem statesText_inj {states states' : List PullState} :
    statesText states = statesText states' ↔ states = states' := by
  refine ⟨fun h => ?_, fun h => congrArg _ h⟩
  by_cases hstates : states = []
  · rw [hstates, eq_comm, ← statesText_eq_empty_iff, ← h, statesText_eq_empty_iff, hstates]
  · have hstates' : states' ≠ [] := by
      rwa [ne_eq, ← statesText_eq_empty_iff, ← h, statesText_eq_empty_iff]
    have hnames := splitOn_statesText hstates'
    rw [← h, splitOn_statesText hstates] at hnames
    refine List.map_injective_iff.2 (fun a b hab => ?_) hnames
    exact PullState.name_inj.1 (String.toList_injective hab)

/-- The name of a listing of pull requests tells states and cutoff. -/
theorem pullsKey_inj {states states' : List PullState} {since since' : Option Instant} :
    pullsKey states since = pullsKey states' since' ↔ states = states' ∧ since = since' := by
  refine ⟨fun h => ?_, by rintro ⟨rfl, rfl⟩; rfl⟩
  have hsplit : statesText states = statesText states' := by
    have htexts := congrArg (fun s : String => (s.toList.drop 13).takeWhile (· != '&')) h
    have hwords (states : List PullState) (text : String) :
        (((("pulls?states=" ++ statesText states) ++ "&since=") ++ text).toList.drop 13).takeWhile
          (· != '&') = (statesText states).toList := by
      simp only [String.toList_append, List.append_assoc]
      rw [List.drop_left' (by decide), List.takeWhile_append_of_pos fun c hc => by
        simpa using ne_ampersand_of_mem_statesText states c hc]
      simp
    exact String.toList_injective ((hwords _ _).symm.trans (htexts.trans (hwords _ _)))
  obtain rfl := statesText_inj.1 hsplit
  rw [pullsKey, pullsKey, String.append_right_inj] at h
  refine ⟨rfl, ?_⟩
  cases since with
  | none =>
    cases since' with
    | none => rfl
    | some t => exact absurd h.symm t.rfc3339_ne_empty
  | some s =>
    cases since' with
    | none => exact absurd h s.rfc3339_ne_empty
    | some t => rw [Instant.rfc3339_inj.1 h]

/-- The name of a listing of check runs tells the commit. -/
theorem checksKey_inj {sha sha' : String} : checksKey sha = checksKey sha' ↔ sha = sha' :=
  String.append_right_inj _

end Cache

end PullWatch
