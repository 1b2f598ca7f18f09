import Bistro.Proofs.Flow

/-!
# Pages in dialogue with a backend

The steps of a page are taken in order, so no request of a step leaves before every fill of the
steps before it is done (`Flow.done_of_sent`). Here a page is looked at together with a backend that
takes requests one at a time: what it answers depends on what it took before, and the page hears of
it later or not at all. A request that the page has given up may still be taken, so only one that
was answered is known to be taken before the requests of later steps (`Dialogue.taken_behind`).
-/

namespace Bistro

variable {σ : Type}

def Move.sent? : Move → Option RegionId
  | .send r => some r
  | _ => none

@[simp] theorem Move.mem_filterMap_sent? (ms : List Move) (r : RegionId) :
    r ∈ ms.filterMap Move.sent? ↔ .send r ∈ ms := by
  simp only [List.mem_filterMap]
  refine ⟨?_, fun h => ⟨_, h, rfl⟩⟩
  rintro ⟨m, hm, hr⟩
  cases m <;> simp only [Move.sent?, Option.some.injEq, reduceCtorEq] at hr
  exact hr ▸ hm

namespace Flow

variable {base : String}

/-- A move that is not the beginning of a step leaves the later steps alone and gives no new fills
to the step under way. -/
theorem Moves.begin_or_within {w w' : Flow} {m : Move} (h : Moves base w m w') :
    (m = .begin ∧ w.idle = [] ∧ w.flying = [] ∧ w'.flying = [] ∧
        ∃ step, w.later = step :: w'.later ∧ w'.idle = step.fills) ∨
      (m ≠ .begin ∧ w'.later = w.later ∧ (∀ f ∈ w'.idle ++ w'.flying, f ∈ w.idle ++ w.flying) ∧
        ∀ r, m = .send r → ∃ f ∈ w.idle, f.region = r) := by
  cases h with
  | begin d step later => exact .inl ⟨rfl, rfl, rfl, rfl, step, rfl, rfl⟩
  | send d before after flying later fill request =>
    refine .inr ⟨by simp, rfl, fun f hf => ?_, ?_⟩
    · simp only [List.mem_append, List.mem_cons] at hf ⊢
      tauto
    · rintro r ⟨⟩
      exact ⟨fill, by simp, rfl⟩
  | put d before after flying later fill request outcome =>
    refine .inr ⟨by simp, rfl, fun f hf => ?_, by simp⟩
    simp only [List.mem_append, List.mem_cons] at hf ⊢
    tauto
  | answer d idle before after later fill outcome =>
    refine .inr ⟨by simp, rfl, fun f hf => ?_, by simp⟩
    simp only [List.mem_append, List.mem_cons] at hf ⊢
    tauto

theorem Moves.waiting_subset {w w' : Flow} {m : Move} (h : Moves base w m w') :
    ∀ f ∈ w'.waiting, f ∈ w.waiting := by
  rcases h.silent_or_writes with ⟨hp, -⟩ | ⟨fill, outcome, hp, -⟩
  · exact fun f hf => hp.mem_iff.2 hf
  · exact fun f hf => hp.mem_iff.2 (List.mem_cons_of_mem _ hf)

theorem waiting_subset_of_run {d : Document} {steps : List Step} {ms : List Move} {w : Flow}
    (h : Run base (start d steps) ms w) : ∀ f ∈ w.waiting, f ∈ steps.flatMap Step.fills := by
  induction h with
  | nil => simp [waiting, start]
  | snoc _ move ih => exact fun f hf => ih f (move.waiting_subset f hf)

theorem Moves.mem_waiting_of_answer {w w' : Flow} {r : RegionId} {outcome : Outcome}
    (h : Moves base w (.answer r outcome) w') : r ∈ w.waiting.map Fill.region := by
  cases h
  simp [waiting]

/-- A run over `early` and then `late` steps is still in the early ones, and has sent nothing for
the late ones, or is done with all fills of the early ones. -/
theorem early_or_late {d : Document} {early late : List Step}
    (hn : (((early ++ late).flatMap Step.fills).map Fill.region).Nodup) {ms : List Move} {w : Flow}
    (h : Run base (start d (early ++ late)) ms w) :
    ((∃ rest, rest <:+ early ∧ w.later = rest ++ late) ∧
        (∀ f ∈ w.idle ++ w.flying, f ∈ early.flatMap Step.fills) ∧
        ∀ f ∈ late.flatMap Step.fills, .send f.region ∉ ms) ∨
      ∀ f ∈ w.waiting, f ∈ late.flatMap Step.fills := by
  induction h with
  | nil => exact .inl ⟨⟨early, List.suffix_refl _, rfl⟩, by simp [start], by simp⟩
  | snoc _ move ih =>
    rcases ih with ⟨⟨rest, hrest, hlater⟩, hway, hsent⟩ | hlate
    · rcases move.begin_or_within with ⟨rfl, hidle, hflying, hflying', step, hstep, hidle'⟩ |
        ⟨hm, hlater', hsub, hsend⟩
      · rcases rest with _ | ⟨first, rest⟩
        · -- the first of the late steps begins
          refine .inr fun f hf => ?_
          have := move.waiting_subset f hf
          simpa [waiting, hidle, hflying, hlater] using this
        · rw [hlater, List.cons_append, List.cons.injEq] at hstep
          obtain ⟨rfl, hstep⟩ := hstep
          refine .inl ⟨⟨rest, (List.suffix_cons _ _).trans hrest, hstep.symm⟩, fun f hf => ?_,
            fun f hf => ?_⟩
          · rw [hidle', hflying', List.append_nil] at hf
            exact List.mem_flatMap.2 ⟨_, hrest.subset List.mem_cons_self, hf⟩
          · simpa using hsent f hf
      · refine .inl ⟨⟨rest, hrest, hlater'.trans hlater⟩, fun f hf => hway f (hsub f hf),
          fun f hf hmem => ?_⟩
        rcases List.mem_append.1 hmem with hmem | hmem
        · exact hsent f hf hmem
        · -- what leaves belongs to the early steps, whose regions are not among the late ones
          obtain ⟨g, hg, hregion⟩ := hsend _ (List.mem_singleton.1 hmem).symm
          have hearly := hway g (List.mem_append_left _ hg)
          simp only [List.flatMap_append, List.map_append, List.nodup_append] at hn
          exact hn.2.2 _ (List.mem_map_of_mem hearly) _ (List.mem_map_of_mem hf) hregion
    · exact .inr fun f hf => hlate f (move.waiting_subset f hf)

/-- When a request of a late step has left, no fill of an early step waits any more. -/
theorem done_of_sent {d : Document} {early late : List Step}
    (hn : (((early ++ late).flatMap Step.fills).map Fill.region).Nodup) {ms : List Move} {w : Flow}
    (h : Run base (start d (early ++ late)) ms w) {f g : Fill} (hf : f ∈ late.flatMap Step.fills)
    (hsent : .send f.region ∈ ms) (hg : g ∈ early.flatMap Step.fills) :
    g.region ∉ w.waiting.map Fill.region := by
  rcases early_or_late hn h with ⟨-, -, hno⟩ | hlate
  · exact absurd hsent (hno f hf)
  · intro hmem
    obtain ⟨f', hf', hregion⟩ := List.mem_map.1 hmem
    simp only [List.flatMap_append, List.map_append, List.nodup_append] at hn
    exact hn.2.2 _ (List.mem_map_of_mem hg) _ (List.mem_map_of_mem (hlate f' hf')) hregion.symm

/-- The regions of the fills that make a request. -/
def asking (base : String) (fills : List Fill) : List RegionId :=
  (fills.filter fun f => (f.request? base).isSome).map Fill.region

@[simp] theorem asking_nil : asking base [] = [] := rfl

@[simp] theorem asking_append (fills fills' : List Fill) :
    asking base (fills ++ fills') = asking base fills ++ asking base fills' := by
  simp [asking]

theorem asking_cons (fill : Fill) (fills : List Fill) :
    asking base (fill :: fills) =
      (if (fill.request? base).isSome then [fill.region] else []) ++ asking base fills := by
  unfold asking
  split <;> rename_i h <;> simp [h]

theorem mem_asking {fills : List Fill} {r : RegionId} :
    r ∈ asking base fills ↔ ∃ f ∈ fills, (f.request? base).isSome ∧ f.region = r := by
  simp only [asking, List.mem_map, List.mem_filter, and_assoc]

/-- The requests that have left, and those that have not, are the requests of the page. -/
theorem perm_sent {d : Document} {steps : List Step} {ms : List Move} {w : Flow}
    (h : Run base (start d steps) ms w) :
    (ms.filterMap Move.sent? ++ asking base (w.idle ++ w.later.flatMap Step.fills)).Perm
      (asking base (steps.flatMap Step.fills)) := by
  induction h with
  | nil => simp [start]
  | snoc _ move ih =>
    refine List.Perm.trans ?_ ih
    cases move with
    | begin d step later => simp [Move.sent?, List.filterMap_cons]
    | send d before after flying later fill request =>
      simp only [List.filterMap_append, List.filterMap_cons, List.filterMap_nil, Move.sent?,
        asking_append, asking_cons, request, if_true, List.append_assoc, List.cons_append,
        List.nil_append]
      exact List.Perm.append_left _ List.perm_middle.symm
    | put d before after flying later fill request outcome =>
      simp [asking_cons, request, Move.sent?, List.filterMap_cons]
    | answer d idle before after later fill outcome => simp [Move.sent?, List.filterMap_cons]

theorem nodup_sent {d : Document} {steps : List Step}
    (hn : ((steps.flatMap Step.fills).map Fill.region).Nodup) {ms : List Move} {w : Flow}
    (h : Run base (start d steps) ms w) : (ms.filterMap Move.sent?).Nodup :=
  ((perm_sent h).nodup_iff.2 (hn.sublist (List.filter_sublist.map _))).of_append_left

theorem sent_iff_of_done {d : Document} {steps : List Step} {ms : List Move} {w : Flow}
    (h : Run base (start d steps) ms w) (hw : w.waiting = []) (r : RegionId) :
    .send r ∈ ms ↔ r ∈ asking base (steps.flatMap Step.fills) := by
  simp only [waiting, List.append_eq_nil_iff] at hw
  rw [← Move.mem_filterMap_sent?, ← (perm_sent h).mem_iff, hw.1.1, hw.2]
  simp

theorem sent_of_flying {d : Document} {steps : List Step} {ms : List Move} {w : Flow}
    (h : Run base (start d steps) ms w) : ∀ f ∈ w.flying, .send f.region ∈ ms := by
  induction h with
  | nil => simp [start]
  | snoc _ move ih =>
    intro f hf
    rw [List.mem_append]
    cases move with
    | begin d step later => simp at hf
    | send d before after flying later fill request =>
      rcases List.mem_cons.1 hf with rfl | hf
      · exact .inr (by simp)
      · exact .inl (ih f hf)
    | put d before after flying later fill request outcome => exact .inl (ih f hf)
    | answer d idle before after later fill outcome =>
      refine .inl (ih f ?_)
      simp only [List.mem_append, List.mem_cons] at hf ⊢
      tauto

end Flow

/-- A backend that takes requests one at a time, each in the state that the one before it left. What
it answers, or how it lets the exchange fail, is settled then. -/
structure Server (σ : Type) where
  take : σ → Request → Outcome × σ

def Server.after (server : Server σ) (state : σ) (requests : List Request) : σ :=
  requests.foldl (fun s q => (server.take s q).2) state

/-- A request that the backend took for a region, and what became of it there. -/
structure Taken where
  region : RegionId
  request : Request
  outcome : Outcome

/-- A page on its way with a backend at the other end, from the first step on: the moves of the
page, how far it got, and what the backend took, in order. Between the moves of the page the backend
takes requests that have left, and these may be ones that the page has given up. An answer is what
became of a taken request, or a failure, whether the request was taken, is still to be taken, or
never will be. -/
inductive Dialogue (base : String) (server : Server σ) (state : σ) (d : Document)
    (steps : List Step) : List Move → Flow → List Taken → Prop
  | start : Dialogue base server state d steps [] (Flow.start d steps) []
  | moved {ms : List Move} {w w' : Flow} {taken : List Taken} {m : Move}
      (talk : Dialogue base server state d steps ms w taken) (move : Flow.Moves base w m w')
      (silent : m.isAnswer = false) :
      Dialogue base server state d steps (ms ++ [m]) w' taken
  | took {ms : List Move} {w : Flow} {taken : List Taken} {fill : Fill} {q : Request}
      (talk : Dialogue base server state d steps ms w taken)
      (page : fill ∈ steps.flatMap Step.fills) (left : .send fill.region ∈ ms)
      (request : fill.request? base = some q) (new : fill.region ∉ taken.map Taken.region) :
      Dialogue base server state d steps ms w (taken ++ [⟨fill.region, q,
        (server.take (server.after state (taken.map Taken.request)) q).1⟩])
  | heard {ms : List Move} {w w' : Flow} {taken : List Taken} {t : Taken}
      (talk : Dialogue base server state d steps ms w taken) (mem : t ∈ taken)
      (move : Flow.Moves base w (.answer t.region t.outcome) w') :
      Dialogue base server state d steps (ms ++ [.answer t.region t.outcome]) w' taken
  | lost {ms : List Move} {w w' : Flow} {taken : List Taken} {r : RegionId} {f : Failure}
      (talk : Dialogue base server state d steps ms w taken)
      (move : Flow.Moves base w (.answer r (.error f)) w') :
      Dialogue base server state d steps (ms ++ [.answer r (.error f)]) w' taken

namespace Dialogue

variable {base : String} {server : Server σ} {state : σ} {d : Document} {steps : List Step}
  {ms : List Move} {w : Flow} {taken : List Taken}

theorem run (h : Dialogue base server state d steps ms w taken) :
    Flow.Run base (Flow.start d steps) ms w := by
  induction h with
  | start => exact .nil
  | moved _ move _ ih => exact ih.snoc move
  | took _ _ _ _ _ ih => exact ih
  | heard _ _ move ih => exact ih.snoc move
  | lost _ move ih => exact ih.snoc move

/-- What was taken was settled in the state that the requests before it had left. -/
theorem outcome_of_taken (h : Dialogue base server state d steps ms w taken) :
    ∀ before t later, taken = before ++ t :: later →
      t.outcome = (server.take (server.after state (before.map Taken.request)) t.request).1 := by
  induction h with
  | start => simp
  | moved _ _ _ ih => exact ih
  | heard _ _ _ ih => exact ih
  | lost _ _ ih => exact ih
  | took _ _ _ _ _ ih =>
    intro before t later heq
    rcases List.eq_nil_or_concat later with rfl | ⟨later', last, rfl⟩
    · obtain ⟨rfl, rfl⟩ := List.append_singleton_inj.1 heq
      rfl
    · rw [List.concat_eq_append, ← List.cons_append, ← List.append_assoc] at heq
      exact ih _ _ _ (List.append_singleton_inj.1 heq).1

theorem sent_of_taken (h : Dialogue base server state d steps ms w taken) :
    ∀ t ∈ taken, .send t.region ∈ ms ∧
      ∃ f ∈ steps.flatMap Step.fills, f.region = t.region ∧ f.request? base = some t.request := by
  induction h with
  | start => simp
  | moved _ _ _ ih => exact fun t ht => (ih t ht).imp_left (List.mem_append_left _)
  | heard _ _ _ ih => exact fun t ht => (ih t ht).imp_left (List.mem_append_left _)
  | lost _ _ ih => exact fun t ht => (ih t ht).imp_left (List.mem_append_left _)
  | took _ page left request _ ih =>
    intro t ht
    rcases List.mem_append.1 ht with ht | ht
    · exact ih t ht
    · obtain rfl := List.mem_singleton.1 ht
      exact ⟨left, _, page, rfl, request⟩

theorem request_of_taken (hn : ((steps.flatMap Step.fills).map Fill.region).Nodup)
    (h : Dialogue base server state d steps ms w taken) {t : Taken} (ht : t ∈ taken) {fill : Fill}
    (hfill : fill ∈ steps.flatMap Step.fills) (hregion : t.region = fill.region) :
    fill.request? base = some t.request := by
  obtain ⟨-, f, hf, hr, hq⟩ := h.sent_of_taken t ht
  rwa [List.inj_on_of_nodup_map hn hf hfill (hr.trans hregion)] at hq

theorem nodup_taken (h : Dialogue base server state d steps ms w taken) :
    (taken.map Taken.region).Nodup := by
  induction h with
  | start => simp
  | moved _ _ _ ih => exact ih
  | heard _ _ _ ih => exact ih
  | lost _ _ ih => exact ih
  | took _ _ _ _ new ih =>
    rw [List.map_append]
    exact List.nodup_append.2 ⟨ih, by simp, by
      rintro r hr r' hr' rfl
      rw [List.map_singleton, List.mem_singleton] at hr'
      subst hr'
      exact new hr⟩

theorem filter_taken (h : Dialogue base server state d steps ms w taken) {t : Taken}
    (ht : t ∈ taken) : taken.filter (fun u => u.region = t.region) = [t] := by
  have hn := h.nodup_taken
  obtain ⟨before, later, rfl⟩ := List.append_of_mem ht
  simp only [List.map_append, List.map_cons, List.nodup_append, List.nodup_cons] at hn
  rw [List.filter_append, List.filter_cons_of_pos (by simp), List.filter_eq_nil_iff.2,
    List.filter_eq_nil_iff.2, List.nil_append]
  · intro u hu
    have : u.region ≠ t.region := fun hr => hn.2.1.1 (hr ▸ List.mem_map_of_mem hu)
    simpa using this
  · intro u hu
    have := hn.2.2 _ (List.mem_map_of_mem hu) _ List.mem_cons_self
    simpa using this

/-- What the page heard was said by the backend, or it was a failure on the way. -/
theorem taken_of_answer (h : Dialogue base server state d steps ms w taken) :
    ∀ r outcome, .answer r outcome ∈ ms →
      (∃ t ∈ taken, t.region = r ∧ t.outcome = outcome) ∨ ∃ f, outcome = .error f := by
  induction h with
  | start => simp
  | moved _ _ silent ih =>
    intro r outcome hmem
    rcases List.mem_append.1 hmem with hmem | hmem
    · exact ih r outcome hmem
    · obtain rfl := List.mem_singleton.1 hmem
      cases silent
  | took _ _ _ _ _ ih =>
    intro r outcome hmem
    refine (ih r outcome hmem).imp_left ?_
    rintro ⟨t, ht, h⟩
    exact ⟨t, List.mem_append_left _ ht, h⟩
  | heard _ mem _ ih =>
    intro r outcome hmem
    rcases List.mem_append.1 hmem with hmem | hmem
    · exact ih r outcome hmem
    · cases List.mem_singleton.1 hmem
      exact .inl ⟨_, mem, rfl, rfl⟩
  | lost _ _ ih =>
    intro r outcome hmem
    rcases List.mem_append.1 hmem with hmem | hmem
    · exact ih r outcome hmem
    · cases List.mem_singleton.1 hmem
      exact .inr ⟨_, rfl⟩

/-- An early request that was answered was taken, and no late one in front of it. -/
theorem taken_behind {early late : List Step}
    (hn : (((early ++ late).flatMap Step.fills).map Fill.region).Nodup)
    (h : Dialogue base server state d (early ++ late) ms w taken) {g : Fill}
    (hg : g ∈ early.flatMap Step.fills) {a : Answer} (ha : .answer g.region (.ok a) ∈ ms) :
    ∃ before t after, taken = before ++ t :: after ∧ t.region = g.region ∧
      ∀ u ∈ before, u.region ∉ (late.flatMap Step.fills).map Fill.region := by
  induction h with
  | start => cases ha
  | moved _ _ silent ih =>
    refine ih ((List.mem_append.1 ha).resolve_right fun hm => ?_)
    obtain rfl := List.mem_singleton.1 hm
    cases silent
  | took _ _ _ _ _ ih =>
    obtain ⟨before, t, after, rfl, ht, hbefore⟩ := ih ha
    exact ⟨before, t, _, List.append_assoc before (t :: after) _, ht, hbefore⟩
  | heard talk mem move ih =>
    rename_i ms w w' taken t
    rcases List.mem_append.1 ha with ha | ha
    · exact ih ha
    -- the answer arrives for a fill in flight, so nothing late has left yet
    · obtain ⟨hregion, -⟩ := Move.answer.inj (List.mem_singleton.1 ha)
      obtain ⟨before, after, rfl⟩ := List.append_of_mem mem
      refine ⟨before, t, after, rfl, hregion.symm, fun u hu hlate => ?_⟩
      obtain ⟨f, hf, hfu⟩ := List.mem_map.1 hlate
      have hsent := (talk.sent_of_taken u (List.mem_append_left _ hu)).1
      exact Flow.done_of_sent hn talk.run hf (hfu ▸ hsent) hg
        (hregion ▸ move.mem_waiting_of_answer)
  | lost _ _ ih =>
    rcases List.mem_append.1 ha with ha | ha
    · exact ih ha
    · cases List.mem_singleton.1 ha

/-- Whatever is in flight is answered by the backend, as soon as it takes it. -/
theorem exists_answered (idle : List Fill) (later : List Step) :
    ∀ (flying : List Fill) (d₁ : Document) (ms : List Move) (taken : List Taken),
      Dialogue base server state d steps ms ⟨d₁, idle, flying, later⟩ taken →
      (∀ f ∈ flying, (f.request? base).isSome) →
      ∃ ms' d₂ taken', Dialogue base server state d steps ms' ⟨d₂, idle, [], later⟩ taken' ∧
        ms <+: ms' ∧ taken <+: taken'
  | [], d₁, ms, taken, h, _ => ⟨ms, d₁, taken, h, List.prefix_rfl, List.prefix_rfl⟩
  | fill :: flying, d₁, ms, taken, h, hasks => by
    have hrest : ∀ f ∈ flying, (f.request? base).isSome := fun f hf =>
      hasks f (List.mem_cons_of_mem _ hf)
    obtain ⟨taken₁, htalk, hprefix, t, ht, hregion⟩ : ∃ taken₁,
        Dialogue base server state d steps ms ⟨d₁, idle, fill :: flying, later⟩ taken₁ ∧
          taken <+: taken₁ ∧ ∃ t ∈ taken₁, t.region = fill.region := by
      by_cases hnew : fill.region ∈ taken.map Taken.region
      · exact ⟨taken, h, List.prefix_rfl, List.mem_map.1 hnew⟩
      · obtain ⟨q, hq⟩ := Option.isSome_iff_exists.1 (hasks fill List.mem_cons_self)
        have hpage := Flow.waiting_subset_of_run h.run fill (by simp [Flow.waiting])
        have hleft := Flow.sent_of_flying h.run fill List.mem_cons_self
        exact ⟨_, h.took hpage hleft hq hnew, List.prefix_append _ _, _,
          List.mem_append_right _ (List.mem_singleton_self _), rfl⟩
    have hmove : Flow.Moves base _ _ _ :=
      Flow.Moves.answer d₁ idle [] flying later fill t.outcome
    obtain ⟨ms', d₂, taken', hend, hms, htaken⟩ := exists_answered idle later flying _ _ _
      (htalk.heard ht (hregion ▸ hmove)) hrest
    exact ⟨ms', d₂, taken', hend, (List.prefix_append _ _).trans hms, hprefix.trans htaken⟩

theorem exists_begun (later : List Step) :
    ∀ (idle flying : List Fill) (d₁ : Document) (ms : List Move),
      Dialogue base server state d steps ms ⟨d₁, idle, flying, later⟩ taken →
      (∀ f ∈ flying, (f.request? base).isSome) →
      ∃ ms' d₂ flying', Dialogue base server state d steps ms' ⟨d₂, [], flying', later⟩ taken ∧
        ms <+: ms' ∧ ∀ f ∈ flying', (f.request? base).isSome
  | [], flying, d₁, ms, h, hasks => ⟨ms, d₁, flying, h, List.prefix_rfl, hasks⟩
  | fill :: idle, flying, d₁, ms, h, hasks => by
    rcases hq : fill.request? base with _ | q
    · obtain ⟨ms', d₂, flying', hend, hms, hasks'⟩ := exists_begun later idle flying _ _
        (h.moved (.put d₁ [] idle flying later fill hq (.error ⟨.sending, none, .closed⟩)) rfl)
        hasks
      exact ⟨ms', d₂, flying', hend, (List.prefix_append _ _).trans hms, hasks'⟩
    · obtain ⟨ms', d₂, flying', hend, hms, hasks'⟩ := exists_begun later idle (fill :: flying) _ _
        (h.moved (.send d₁ [] idle flying later fill (by simp [hq])) rfl)
        (List.forall_mem_cons.2 ⟨by simp [hq], hasks⟩)
      exact ⟨ms', d₂, flying', hend, (List.prefix_append _ _).trans hms, hasks'⟩

/-- From wherever a page has got to, it comes to its end. -/
theorem exists_done :
    ∀ (later : List Step) (idle flying : List Fill) (d₁ : Document) (ms : List Move)
      (taken : List Taken), Dialogue base server state d steps ms ⟨d₁, idle, flying, later⟩ taken →
      (∀ f ∈ flying, (f.request? base).isSome) →
      ∃ ms' w taken', Dialogue base server state d steps ms' w taken' ∧ w.waiting = [] ∧
        ms <+: ms' ∧ taken <+: taken'
  | later, idle, flying, d₁, ms, taken, h, hasks => by
    obtain ⟨ms₁, d₂, flying₁, hbegun, hms₁, hasks₁⟩ := exists_begun later idle flying d₁ ms h hasks
    obtain ⟨ms₂, d₃, taken₂, hdone, hms₂, htaken₂⟩ :=
      exists_answered [] later flying₁ d₂ ms₁ taken hbegun hasks₁
    rcases later with _ | ⟨step, later⟩
    · exact ⟨ms₂, _, taken₂, hdone, rfl, hms₁.trans hms₂, htaken₂⟩
    · obtain ⟨ms₃, w, taken₃, hend, hw, hms₃, htaken₃⟩ :=
        exists_done later step.fills [] d₃ _ taken₂ (hdone.moved (.begin d₃ step later) rfl)
          (by simp)
      exact ⟨ms₃, w, taken₃, hend, hw,
        hms₁.trans (hms₂.trans ((List.prefix_append _ _).trans hms₃)), htaken₂.trans htaken₃⟩

/-- A request that is given up can be taken behind those of the next step. -/
theorem exists_taken_last (server : Server σ) (state : σ) (d : Document) {p a b : Fill}
    {qp qa qb : Request} (hp : p.request? base = some qp) (ha : a.request? base = some qa)
    (hb : b.request? base = some qb)
    (hn : [p.region, a.region, b.region].Nodup) (notes notes' : List Event) (f : Failure) :
    let first := server.take state qa
    let second := server.take first.2 qb
    ∃ ms w outcome, Dialogue base server state d [⟨notes, [p]⟩, ⟨notes', [a, b]⟩] ms w
        [⟨a.region, qa, first.1⟩, ⟨b.region, qb, second.1⟩, ⟨p.region, qp, outcome⟩] ∧
      w.waiting = [] ∧ w.document = ((d.write p.region (p.content base (.error f))).write a.region
        (a.content base first.1)).write b.region (b.content base second.1) := by
  intro first second
  simp only [List.nodup_cons, List.mem_cons, List.not_mem_nil, or_false, not_or] at hn
  have hpage : ∀ g ∈ [p, a, b],
      g ∈ [Step.mk notes [p], ⟨notes', [a, b]⟩].flatMap Step.fills := by simp
  have hsent : Dialogue base server state d [⟨notes, [p]⟩, ⟨notes', [a, b]⟩] _
      ⟨d, [], [p], [⟨notes', [a, b]⟩]⟩ [] :=
    (Dialogue.start.moved (.begin d ⟨notes, [p]⟩ [⟨notes', [a, b]⟩]) rfl).moved
      (.send d [] [] [] _ p (by simp [hp])) rfl
  have hlost := (hsent.lost (.answer d [] [] [] _ p (.error f))).moved (.begin _ _ []) rfl
  have hleft := (hlost.moved (.send _ [] [b] [] [] a (by simp [ha])) rfl).moved
    (.send _ [] [] [a] [] b (by simp [hb])) rfl
  have hfirst := hleft.took (hpage a (by simp)) (by simp) ha (by simp)
  have hsecond := hfirst.took (hpage b (by simp)) (by simp) hb (by simp [Ne.symm hn.2.1])
  have hheard := (hsecond.heard (t := ⟨a.region, qa, first.1⟩) (by simp [Server.after, first])
    (.answer _ [] [b] [] [] a _)).heard (t := ⟨b.region, qb, second.1⟩)
    (by simp [Server.after, first, second]) (.answer _ [] [] [] [] b _)
  have hend := hheard.took (hpage p (by simp)) (by simp) hp (by simp [hn.1])
  exact ⟨_, _, _, hend, rfl, rfl⟩

end Dialogue

end Bistro
