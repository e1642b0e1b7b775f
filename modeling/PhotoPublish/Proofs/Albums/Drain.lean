import Mathlib.Algebra.Order.Group.Multiset
import PhotoPublish.Albums.Drain
import PhotoPublish.Albums.Offers
import PhotoPublish.Proofs.Albums.CheckList

/-!
# What drains give

Whoever uses a check list offers albums and takes steps of drains, in any order. What came of a use says how
it changed the list (`Outcome.Changes`, `perform_changes`); all else follows from that. So the list goes
through a run of changes (`after_eq_run`) and stays ordered.

* `run_longest_first`: the longest albums come first, in the list and out of it; no album is given while a
  longer one is listed.
* `run_conserves`: what got in has been given or is still listed, and an offered album is covered afterwards.
* `drain_eq_steps`, `drainAdding_eq_steps`: draining a number of albums, and draining while albums are added,
  are such uses.
-/

set_option autoImplicit false

namespace PhotoPublish.Draining

open CheckList

variable {state : Draining} {old new : CheckList} {outcome : Outcome} {album : Text}

/-! ## Changes of the list -/

/-- How the list changes with an outcome. -/
def Outcome.Changes (old new : CheckList) : Outcome → Prop
  | offered album true => insert? album old = some new
  | offered album false => insert? album old = none ∧ new = old
  | outside => new = old
  | yielded album => old = album :: new
  | finished => new = old

theorem offer_changes (album : Text) (state : Draining) :
    (offer album state).1.Changes state.list (offer album state).2.list := by
  unfold offer CheckList.add
  cases hinsert : insert? album state.list with
  | some longer => exact hinsert
  | none => exact ⟨hinsert, rfl⟩

/-- **What a use does to the list.** -/
theorem perform_changes (state : Draining) (action : Action) :
    (state.perform action).1.Changes state.list (state.perform action).2.list := by
  cases action with
  | add album => exact offer_changes album state
  | note photoPath =>
    cases halbum : albumOf? photoPath with
    | some album =>
      simp only [perform, halbum]
      exact offer_changes album state
    | none =>
      simp only [perform, halbum]
      exact rfl
  | next drain =>
    by_cases hfinished : drain ∈ state.finished
    · simp only [perform, if_pos hfinished]
      exact rfl
    · cases hlist : state.list with
      | nil =>
        simp only [perform, if_neg hfinished, hlist, takeFirst?]
        exact rfl
      | cons first rest =>
        simp only [perform, if_neg hfinished, hlist, takeFirst?]
        exact rfl

/-! ## Order -/

/-- A use is one change of the list, or none. -/
theorem Outcome.Changes.eq_run (h : outcome.Changes old new) : ∃ events, new = old.run events := by
  cases outcome with
  | offered album admitted =>
    cases admitted with
    | true =>
      have hinsert : insert? album old = some new := h
      exact ⟨[.add album], by simp [run, Event.apply, CheckList.add, hinsert]⟩
    | false => exact ⟨[], h.2⟩
  | outside | finished => exact ⟨[], h⟩
  | yielded album =>
    obtain rfl : old = album :: new := h
    exact ⟨[.drain], rfl⟩

/-- **Uses change the list as a run does.** -/
theorem after_eq_run (state : Draining) (actions : List Action) :
    ∃ events, (state.after actions).list = state.list.run events := by
  induction actions generalizing state with
  | nil => exact ⟨[], rfl⟩
  | cons action later ih =>
    obtain ⟨events, hevents⟩ := (perform_changes state action).eq_run
    obtain ⟨later', hlater⟩ := ih (state.perform action).2
    refine ⟨events ++ later', ?_⟩
    rw [run_append, ← hevents]
    exact hlater

theorem after_ordered (hstate : Ordered state.list) (actions : List Action) :
    Ordered (state.after actions).list := by
  obtain ⟨events, hevents⟩ := after_eq_run state actions
  rw [hevents]
  exact hstate.run events

/-- A given album is at least as long as all that stay. -/
theorem Outcome.Changes.length_le (h : (Outcome.yielded album).Changes old new)
    (hold : Ordered old) : ∀ entry ∈ new, entry.length ≤ album.length := by
  obtain rfl : old = album :: new := h
  exact (List.pairwise_cons.1 hold).1

/-- An entry stays in the list unless it is given. -/
theorem Outcome.Changes.mem_or_yielded (h : outcome.Changes old new) {entry : Text}
    (hentry : entry ∈ old) : entry ∈ new ∨ outcome = .yielded entry := by
  cases outcome with
  | offered album admitted =>
    cases admitted with
    | true =>
      obtain ⟨front, back, rfl, rfl, -, -⟩ := insert?_eq_some h
      left
      simp only [List.mem_append, List.mem_cons] at hentry ⊢
      exact hentry.imp_right .inr
    | false =>
      obtain ⟨-, rfl⟩ := h
      exact .inl hentry
  | outside | finished =>
    obtain rfl : new = old := h
    exact .inl hentry
  | yielded album =>
    obtain rfl : old = album :: new := h
    rcases List.mem_cons.1 hentry with rfl | hmem
    · exact .inr rfl
    · exact .inl hmem

/-- As long as an entry is listed, nothing shorter is given. -/
theorem mem_of_yields_eq {shorter longer : Text} (hlength : shorter.length < longer.length)
    (actions : List Action) {earlier later : List Text} (hstate : Ordered state.list)
    (hlisted : longer ∈ state.list)
    (hyields : yields (state.outcomes actions) = earlier ++ shorter :: later) :
    longer ∈ earlier := by
  induction actions generalizing state earlier with
  | nil => simp [outcomes, yields] at hyields
  | cons action actions ih =>
    have hchanges := perform_changes state action
    have hordered := after_ordered hstate [action]
    simp only [outcomes, yields, List.filterMap_cons] at hyields
    cases houtcome : (state.perform action).1 with
    | yielded first =>
      rw [houtcome] at hchanges hyields
      -- If the longer album stays, what is given is no shorter, so it is not the shorter one.
      rcases hchanges.mem_or_yielded hlisted with hstays | hgiven
      · have hle := hchanges.length_le hstate longer hstays
        cases earlier with
        | nil =>
          obtain ⟨rfl, -⟩ := List.cons.inj hyields
          omega
        | cons head earlier =>
          have hrest := (List.cons.inj hyields).2
          exact List.mem_cons_of_mem _ (ih hordered hstays hrest)
      · obtain rfl : first = longer := Outcome.yielded.inj hgiven
        cases earlier with
        | nil =>
          obtain ⟨rfl, -⟩ := List.cons.inj hyields
          omega
        | cons head earlier =>
          obtain ⟨rfl, -⟩ := List.cons.inj hyields
          exact List.mem_cons_self
    | offered | outside | finished =>
      rw [houtcome] at hchanges hyields
      rcases hchanges.mem_or_yielded hlisted with hstays | hgiven
      · exact ih hordered hstays hyields
      · cases hgiven

/-- The path of an album below another one goes on from that one's path. -/
def LiesBelow (lower upper : Text) : Prop :=
  upper <+: lower ∧ upper ≠ lower

instance (lower upper : Text) : Decidable (LiesBelow lower upper) :=
  inferInstanceAs (Decidable (upper <+: lower ∧ upper ≠ lower))

theorem LiesBelow.length_lt {lower upper : Text} (h : LiesBelow lower upper) :
    upper.length < lower.length := by
  obtain ⟨hbegins, hne⟩ := h
  rcases Nat.lt_or_ge upper.length lower.length with hlt | hge
  · exact hlt
  · exact absurd (hbegins.eq_of_length_le hge) hne

/-- **The longest albums come first.** After any uses of an empty list the lengths do not increase along the
list, a drain gives an album that is at least as long as all that stay, and from then on no album is given
before the listed ones below it. -/
theorem run_longest_first (actions : List Action) :
    Ordered (after {} actions).list ∧
      (∀ drain album, ((after {} actions).perform (.next drain)).1 = .yielded album →
        ∀ entry ∈ ((after {} actions).perform (.next drain)).2.list,
          entry.length ≤ album.length) ∧
      ∀ upper lower, lower ∈ (after {} actions).list → LiesBelow lower upper →
        ∀ more earlier later,
          yields ((after {} actions).outcomes more) = earlier ++ upper :: later →
            lower ∈ earlier := by
  have hempty : Ordered (Draining.list {}) := List.Pairwise.nil
  have hordered := after_ordered hempty actions
  refine ⟨hordered, fun drain album hyielded => ?_, fun upper lower hlisted hbelow more _ _ hyields =>
    mem_of_yields_eq hbelow.length_lt more hordered hlisted hyields⟩
  have hchanges := perform_changes (after {} actions) (.next drain)
  rw [hyielded] at hchanges
  exact hchanges.length_le hordered

/-- An album that is added while drains are under way comes before the one above it. -/
theorem run_longest_first_interleaved :
    let start := after {} [.add "a".toList, .add "a/b".toList, .add "c".toList]
    let more : List Action := [.next 0, .note "a/d/e.jpg".toList, .next 1, .next 0, .next 0]
    (start.perform (.next 1)).1 = .yielded "a/b".toList ∧
      (∀ entry ∈ (start.perform (.next 1)).2.list, entry.length ≤ "a/b".toList.length) ∧
      "a/b".toList ∈ start.list ∧ LiesBelow "a/b".toList "a".toList ∧
      yields (start.outcomes more) =
        ["a/b".toList, "a/d".toList, "c".toList] ++ "a".toList :: [] ∧
      "a/b".toList ∈ ["a/b".toList, "a/d".toList, "c".toList] := by
  intro start more
  obtain ⟨-, hgiven, hbelow⟩ :=
    run_longest_first [.add "a".toList, .add "a/b".toList, .add "c".toList]
  have hyielded : (start.perform (.next 1)).1 = .yielded "a/b".toList := by decide +kernel
  have hlisted : "a/b".toList ∈ start.list := by decide +kernel
  have hlies : LiesBelow "a/b".toList "a".toList := by decide +kernel
  have hyields : yields (start.outcomes more) =
      ["a/b".toList, "a/d".toList, "c".toList] ++ "a".toList :: [] := by decide +kernel
  exact ⟨hyielded, hgiven 1 _ hyielded, hlisted, hlies, hyields,
    hbelow _ _ hlisted hlies more _ _ hyields⟩

/-! ## Conservation -/

/-- An album that comes in is one more entry, one that is given is one less. -/
theorem Outcome.Changes.conserves (h : outcome.Changes old new) :
    (outcome.yielded?.toList : Multiset Text) + new = outcome.admitted?.toList + old := by
  cases outcome with
  | offered album admitted =>
    cases admitted with
    | true =>
      obtain ⟨front, back, rfl, rfl, -, -⟩ := insert?_eq_some h
      exact Multiset.coe_eq_coe.2 List.perm_middle
    | false =>
      obtain ⟨-, rfl⟩ := h
      rfl
  | outside | finished =>
    obtain rfl : new = old := h
    rfl
  | yielded album =>
    obtain rfl : old = album :: new := h
    rfl

theorem coe_filterMap_cons {α β : Type} (f : α → Option β) (a : α) (as : List α) :
    (((a :: as).filterMap f : List β) : Multiset β) = (f a).toList + as.filterMap f := by
  cases h : f a <;> simp [h]

/-- What was given along a run, with what is listed now, is what got in, with what was listed before. -/
theorem yields_add_list (state : Draining) (actions : List Action) :
    (yields (state.outcomes actions) : Multiset Text) + (state.after actions).list =
      admissions (state.outcomes actions) + state.list := by
  induction actions generalizing state with
  | nil => rfl
  | cons action actions ih =>
    have hstep := (perform_changes state action).conserves
    have hrest := ih (state.perform action).2
    simp only [yields, admissions] at hrest
    simp only [outcomes, after, yields, admissions, coe_filterMap_cons]
    rw [add_assoc, hrest, add_left_comm, hstep, add_left_comm, add_assoc]

theorem exists_covering_add {list : CheckList} (hlist : Ordered list) (album : Text) :
    ∃ entry ∈ (list.add album).1, album <+: entry := by
  rcases add_cases list album with ⟨front, back, -, hadd⟩ | hadd
  · rw [hadd]
    exact ⟨album, List.mem_append_right _ List.mem_cons_self, List.prefix_refl _⟩
  · have hcovered := (insert?_eq_none_iff hlist).1 (add_eq_false_iff.1 hadd)
    rw [hadd]
    exact covers_iff.2 (hcovered.imp_right mem_of_firstNotLonger?)

/-- **No album is lost or invented.** After any uses of an empty list, an offered album gets in between the
entries, which keep their order, or the list stays as it is; the albums given so far and the listed ones are
those that got in; and an offered album is covered afterwards. -/
theorem run_conserves (actions : List Action) :
    (∀ album,
        (∃ front back, (after {} actions).list = front ++ back ∧
          (after {} actions).list.add album = (front ++ album :: back, true)) ∨
        (after {} actions).list.add album = ((after {} actions).list, false)) ∧
      (yields (outcomes {} actions) : Multiset Text) + (after {} actions).list =
        admissions (outcomes {} actions) ∧
      ∀ album, ∃ entry ∈ ((after {} actions).list.add album).1, album <+: entry := by
  have hempty : Ordered (Draining.list {}) := List.Pairwise.nil
  have hconserved := yields_add_list {} actions
  rw [Multiset.coe_nil, add_zero] at hconserved
  exact ⟨add_cases _, hconserved, exists_covering_add (after_ordered hempty actions)⟩

/-! ## Whole drains -/

section Whole

variable {drain : Nat}

theorem perform_of_finished (hfinished : drain ∈ state.finished) :
    state.perform (.next drain) = (.finished, state) := by
  simp only [perform, if_pos hfinished]

/-- A drain that is finished gives nothing, whatever is added. -/
theorem yields_of_finished (hfinished : drain ∈ state.finished) {actions : List Action}
    (hactions : ∀ action ∈ actions, action = .next drain ∨ ∃ album, action = .add album) :
    yields (state.outcomes actions) = [] := by
  induction actions generalizing state with
  | nil => rfl
  | cons action actions ih =>
    have hrest : ∀ action ∈ actions, action = .next drain ∨ ∃ album, action = .add album :=
      fun action haction => hactions action (List.mem_cons_of_mem _ haction)
    rcases hactions action List.mem_cons_self with rfl | ⟨album, rfl⟩
    · rw [outcomes, perform_of_finished hfinished]
      exact ih hfinished hrest
    · have hfinished' : drain ∈ (state.perform (.add album)).2.finished := hfinished
      exact ih hfinished' hrest

theorem after_replicate_of_finished (hfinished : drain ∈ state.finished) (count : Nat) :
    state.after (List.replicate count (.next drain)) = state := by
  induction count with
  | zero => rfl
  | succ count ih => rwa [List.replicate_succ, after, perform_of_finished hfinished]

theorem perform_of_nil (hopen : drain ∉ state.finished) (hlist : state.list = []) :
    state.perform (.next drain) = (.finished, { state with finished := drain :: state.finished }) := by
  simp only [perform, if_neg hopen, hlist, takeFirst?]

theorem perform_of_cons (hopen : drain ∉ state.finished) {first : Text} {rest : CheckList}
    (hlist : state.list = first :: rest) :
    state.perform (.next drain) = (.yielded first, { state with list := rest }) := by
  simp only [perform, if_neg hopen, hlist, takeFirst?]

/-- Steps of one drain give the list from its front. -/
theorem yields_replicate (hopen : drain ∉ state.finished) (count : Nat) :
    yields (state.outcomes (List.replicate count (.next drain))) = state.list.take count ∧
      (state.after (List.replicate count (.next drain))).list = state.list.drop count := by
  induction count generalizing state with
  | zero => exact ⟨rfl, rfl⟩
  | succ count ih =>
    rw [List.replicate_succ, outcomes, after]
    cases hlist : state.list with
    | nil =>
      have hfinished : drain ∈ drain :: state.finished := List.mem_cons_self
      rw [perform_of_nil hopen hlist, after_replicate_of_finished hfinished]
      refine ⟨yields_of_finished hfinished fun action haction => .inl ?_, hlist⟩
      exact List.eq_of_mem_replicate haction
    | cons first rest =>
      rw [perform_of_cons hopen hlist]
      obtain ⟨hyields, hafter⟩ := @ih { state with list := rest } hopen
      exact ⟨congrArg (first :: ·) hyields, hafter⟩

/-- Draining a number of albums is as many steps of a new drain. -/
theorem drain_eq_steps (hopen : drain ∉ state.finished) (count : Nat) :
    (OfferedList.albums state.list).drain count =
      ((yields (state.outcomes (List.replicate count (.next drain)))).map Value.text,
        .albums (state.after (List.replicate count (.next drain))).list) := by
  obtain ⟨hyields, hafter⟩ := yields_replicate hopen count
  rw [hyields, hafter]
  rfl

/-- A drain that goes on to the end, with an album added after each of its first steps. -/
def addingSteps (drain : Nat) (albums : List Text) (count : Nat) : List Action :=
  albums.flatMap (fun album => [.next drain, .add album]) ++ List.replicate count (.next drain)

theorem eq_next_or_add_of_mem_addingSteps {albums : List Text} {count : Nat} {action : Action}
    (haction : action ∈ addingSteps drain albums count) :
    action = .next drain ∨ ∃ album, action = .add album := by
  rcases List.mem_append.1 haction with hadding | hlast
  · obtain ⟨album, -, hmem⟩ := List.mem_flatMap.1 hadding
    rcases List.mem_pair.1 hmem with rfl | rfl
    · exact .inl rfl
    · exact .inr ⟨album, rfl⟩
  · exact .inl (List.eq_of_mem_replicate hlast)

theorem length_add_le (list : CheckList) (album : Text) :
    (list.add album).1.length ≤ list.length + 1 := by
  rcases add_cases list album with ⟨front, back, rfl, hadd⟩ | hadd
  · rw [hadd]
    simp only [List.length_append, List.length_cons]
    omega
  · rw [hadd]
    exact Nat.le_succ _

theorem drainAdding_cons (first album : Text) (rest : CheckList) (more : List Value) :
    (OfferedList.albums (first :: rest)).drainAdding (.text album :: more) =
      ((OfferedList.albums (rest.add album).1).drainAdding more).map (Value.text first :: ·) := by
  simp only [OfferedList.drainAdding, OfferedList.drain, List.take_succ_cons, List.drop_succ_cons,
    List.take_zero, List.drop_zero, List.map_cons, OfferedList.add_text]
  change ((OfferedList.albums (rest.add album).1).drainAdding more >>= _) = _
  cases (OfferedList.albums (rest.add album).1).drainAdding more <;> rfl

/-- Draining while albums are added is a run of one drain. -/
theorem drainAdding_eq_steps (hopen : drain ∉ state.finished) (albums : List Text) {count : Nat}
    (hcount : state.list.length ≤ count) :
    (OfferedList.albums state.list).drainAdding (albums.map Value.text) =
      .ok ((yields (state.outcomes (addingSteps drain albums count))).map Value.text) := by
  induction albums generalizing state with
  | nil =>
    have hyields := (yields_replicate hopen count).1
    rw [List.take_of_length_le hcount] at hyields
    exact congrArg (fun albums => Except.ok (albums.map Value.text)) hyields.symm
  | cons album albums ih =>
    have hsteps : addingSteps drain (album :: albums) count =
        .next drain :: .add album :: addingSteps drain albums count := rfl
    rw [hsteps, outcomes]
    cases hlist : state.list with
    | nil =>
      have hrest : ∀ action ∈ Action.add album :: addingSteps drain albums count,
          action = .next drain ∨ ∃ album, action = .add album := fun action haction =>
        eq_next_or_add_of_mem_addingSteps (hsteps ▸ List.mem_cons_of_mem _ haction)
      have hfinished : drain ∈ { state with finished := drain :: state.finished : Draining }.finished :=
        List.mem_cons_self
      have hnone := yields_of_finished hfinished hrest
      rw [perform_of_nil hopen hlist]
      exact congrArg (fun albums => Except.ok (albums.map Value.text)) hnone.symm
    | cons first rest =>
      -- The step takes one album off, so with the added one the list is no longer than before.
      have hlength : (CheckList.add rest album).1.length ≤ count := by
        rw [hlist, List.length_cons] at hcount
        exact (length_add_le rest album).trans hcount
      have hrest := @ih { state with list := (CheckList.add rest album).1 } hopen hlength
      rw [perform_of_cons hopen hlist, outcomes, List.map_cons, drainAdding_cons, hrest]
      rfl

end Whole

end PhotoPublish.Draining
