import Bistro.Proofs.Dialogue
import Bistro.Proofs.Queries

/-!
# The page after a review on its way

A page after a review is followed move by move, with a backend at the other end. The requests of the
loads leave only behind the post, whatever became of it, and if the post was answered, the backend
took it in front of them (`PagePlan.loadsFollow`).
-/

namespace Bistro

variable {σ : Type}

/-- The requests that the backend took for the message of a page. -/
def posted (taken : List Taken) : List Request :=
  (taken.filter fun t => t.region = .reservationMessage).map Taken.request

namespace PagePlan

/-- The fills that load a restaurant. -/
def loads (name : String) : List Fill :=
  [.ask .details (.detail name), .ask .reviews (.review name)]

def post (form : Form) : Fill :=
  Operation.submit .reservationMessage (form.review.map .postReview)

abbrev Reviewing (service : Service) (form : Form) (server : Server σ) (state : σ) :
    List Move → Flow → List Taken → Prop :=
  Dialogue service.backendUrl server state .fresh (review service form).steps

/-- What holds wherever the page after a review has got to, in whatever order things happened. No
load has left unless the message is there: the rating is none, the post could not be sent, or it was
answered or lost. A post that was answered was taken, and every load that was taken was taken behind
it. What the loads show in the end is what the backend said, unless the exchange failed. Each load
is made once, if it can be made, and the message is what the submission alone makes of the answer to
the post. -/
structure LoadsFollow (service : Service) (form : Form) (server : Server σ) (state : σ) : Prop where
  behind : ∀ ms w taken, Reviewing service form server state ms w taken →
    ∀ r, r ≠ .reservationMessage → .send r ∈ ms →
      (w.document.region .reservationMessage).writes = 1 ∧
        ((∃ t, form.review = .error t) ∨
          (∃ q, form.review = .ok q ∧ (Call.postReview q).request? service.backendUrl = none) ∨
          ∃ outcome, .answer .reservationMessage outcome ∈ ms)
  answered : ∀ ms w taken, Reviewing service form server state ms w taken →
    ∀ a, .answer .reservationMessage (.ok a) ∈ ms →
      ∃ q, (post form).request? service.backendUrl = some q ∧ posted taken = [q]
  behind_post : ∀ ms w taken, Reviewing service form server state ms w taken →
    ∀ a, .answer .reservationMessage (.ok a) ∈ ms →
      ∀ t ∈ taken, t.region ≠ .reservationMessage → ∃ others,
        t.outcome = (server.take (server.after state (posted taken ++ others)) t.request).1
  shown : ∀ ms w taken, Reviewing service form server state ms w taken → w.waiting = [] →
    ∀ name, selectedBy service form = some name → ∀ fill ∈ loads name, ∃ outcome,
      w.document.region fill.region = Region.fresh.write (fill.content service.backendUrl outcome) ∧
        ∀ q, fill.request? service.backendUrl = some q → (∃ f, outcome = .error f) ∨ ∃ others,
          outcome = (server.take (server.after state others) q).1 ∧
            ∀ a, .answer .reservationMessage (.ok a) ∈ ms → posted taken <+: others
  once : ∀ ms w taken, Reviewing service form server state ms w taken →
    ∀ name, selectedBy service form = some name → ∀ fill ∈ loads name,
      (ms.filterMap Move.sent?).count fill.region ≤ 1 ∧
        (w.waiting = [] → (ms.filterMap Move.sent?).count fill.region =
          if (fill.request? service.backendUrl).isSome then 1 else 0)
  unselected : ∀ ms w taken, Reviewing service form server state ms w taken →
    selectedBy service form = none →
      (∀ r, r ≠ .reservationMessage → .send r ∉ ms) ∧ w.document.reviews = .fresh ∧
        (w.waiting = [] → w.document.details = Region.fresh.write
          (.rendered (.message "Pick a restaurant to see its details.")))
  message : ∀ ms w taken, Reviewing service form server state ms w taken → w.waiting = [] →
    ∃ outcome, (((post form).request? service.backendUrl).isSome →
        .answer .reservationMessage outcome ∈ ms) ∧
      w.document.region .reservationMessage =
        ((Operation.submitReview .reservationMessage form).step.finish service.backendUrl
          (fun _ => outcome) .fresh).document.region .reservationMessage
  ends : ∀ ms w taken, Reviewing service form server state ms w taken →
    ∃ ms' w' taken', Reviewing service form server state ms' w' taken' ∧ w'.waiting = [] ∧
      ms <+: ms' ∧ taken <+: taken'

section LoadsFollow

variable {service : Service} {form : Form} {server : Server σ} {state : σ} {ms : List Move}
  {w : Flow} {taken : List Taken}

theorem fills_review (service : Service) (form : Form) :
    (review service form).steps.flatMap Step.fills =
      post form :: (load (selectedBy service form)).fills := by
  simp [review, post, Operation.step]

@[simp] theorem region_post (form : Form) : (post form).region = .reservationMessage :=
  Operation.region_submit _ _

theorem mem_load {selected : Option String} {fill : Fill} (h : fill ∈ (load selected).fills) :
    fill.region ≠ .reservationMessage := by
  cases selected with
  | none => simp_all [load]
  | some name =>
    simp only [load, Operation.step, List.mem_cons, List.not_mem_nil, or_false] at h
    rcases h with rfl | rfl <;> simp

theorem nodup_review (service : Service) (form : Form) :
    (((review service form).steps.flatMap Step.fills).map Fill.region).Nodup := by
  rw [fills_review]
  cases selectedBy service form <;> simp [load, Operation.step]

theorem Reviewing.follows (h : Reviewing service form server state ms w taken) :
    Flow.Follows service.backendUrl .fresh (post form :: (load (selectedBy service form)).fills) ms
      w := by
  rw [← fills_review]
  exact Flow.follows_of_run (nodup_review service form) h.run

theorem Reviewing.mem_load_of_sent (h : Reviewing service form server state ms w taken)
    {r : RegionId} (hr : r ≠ .reservationMessage) (hsent : .send r ∈ ms) :
    ∃ f ∈ (load (selectedBy service form)).fills, f.region = r ∧
      (f.request? service.backendUrl).isSome := by
  have hmem := (Flow.perm_sent h.run).mem_iff.1
    (List.mem_append_left _ ((Move.mem_filterMap_sent? ms r).2 hsent))
  obtain ⟨f, hf, hasks, rfl⟩ := Flow.mem_asking.1 hmem
  rw [fills_review, List.mem_cons] at hf
  rcases hf with rfl | hf
  · exact absurd (region_post form) hr
  · exact ⟨f, hf, rfl, hasks⟩

/-- When a load has left, the post is done. -/
theorem Reviewing.posted_of_sent (h : Reviewing service form server state ms w taken)
    {r : RegionId} (hr : r ≠ .reservationMessage) (hsent : .send r ∈ ms) :
    ∃ outcome, w.document.region .reservationMessage =
        Region.fresh.write ((post form).content service.backendUrl outcome) ∧
      (((post form).request? service.backendUrl).isSome →
        .answer .reservationMessage outcome ∈ ms) := by
  obtain ⟨f, hf, hregion, -⟩ := h.mem_load_of_sent hr hsent
  have hdone : (post form).region ∉ w.waiting.map Fill.region :=
    @Flow.done_of_sent _ _ [_] [_] (nodup_review service form) _ _ h.run _ _ (by simpa using hf)
      (hregion ▸ hsent) (by simp [post, Operation.step])
  obtain ⟨outcome, hwritten, hanswer⟩ := h.follows.written (post form) List.mem_cons_self hdone
  rw [region_post] at hwritten hanswer
  exact ⟨outcome, by rw [hwritten, Document.region_fresh],
    fun hasks => (hanswer outcome).2 ⟨hasks, rfl⟩⟩

theorem request?_post (base : String) (form : Form) :
    (post form).request? base =
      (form.review.map Call.postReview).toOption.bind (Call.request? base) :=
  Operation.request?_submit _ _ _

theorem method_of_post {base : String} {form : Form} {q : Request}
    (h : (post form).request? base = some q) : q.method = .post := by
  rw [request?_post] at h
  cases hreview : form.review with
  | error t =>
    rw [hreview] at h
    cases h
  | ok r =>
    simp only [hreview, Except.map, Except.toOption, Option.bind_some] at h
    exact Call.method_of_request? h

/-- A post that was answered was taken first of all. -/
theorem Reviewing.taken_eq (h : Reviewing service form server state ms w taken) {a : Answer}
    (ha : .answer .reservationMessage (.ok a) ∈ ms) :
    ∃ t later, taken = t :: later ∧ t.region = .reservationMessage := by
  have hpost : post form ∈ [Step.mk [] [post form]].flatMap Step.fills := by simp
  obtain ⟨before, t, later, rfl, ht, hbefore⟩ :=
    @Dialogue.taken_behind _ _ _ _ _ _ _ _ [_] [_] (nodup_review service form) h _ hpost a
      ((region_post form).symm ▸ ha)
  rw [region_post] at ht
  rcases before with _ | ⟨u, before⟩
  · exact ⟨t, later, rfl, ht⟩
  -- what is in front would be a load, or a second post
  · obtain ⟨-, f, hf, hregion, -⟩ := h.sent_of_taken u (by simp)
    rw [fills_review, List.mem_cons] at hf
    rcases hf with rfl | hf
    · have hn := h.nodup_taken
      simp [← hregion, ht] at hn
    · refine absurd (hregion ▸ List.mem_map_of_mem ?_) (hbefore u List.mem_cons_self)
      simpa using hf

/-- What is taken for a load is settled behind a post that was answered. -/
theorem Reviewing.outcome_behind_post (h : Reviewing service form server state ms w taken)
    {a : Answer} (ha : .answer .reservationMessage (.ok a) ∈ ms) {t : Taken} (ht : t ∈ taken)
    (hr : t.region ≠ .reservationMessage) : ∃ others,
      t.outcome = (server.take (server.after state (posted taken ++ others)) t.request).1 := by
  obtain ⟨first, later, rfl, hfirst⟩ := h.taken_eq ha
  have hposted : posted (first :: later) = [first.request] := by
    rw [posted, ← hfirst, h.filter_taken List.mem_cons_self, List.map_singleton]
  rcases List.mem_cons.1 ht with rfl | ht
  · exact absurd hfirst hr
  · obtain ⟨between, rest, rfl⟩ := List.append_of_mem ht
    refine ⟨between.map Taken.request, ?_⟩
    rw [hposted]
    exact h.outcome_of_taken (first :: between) t rest rfl

/-- Nothing is loaded under a name that is too long for an address. -/
theorem Reviewing.not_sent_of_long (h : Reviewing service form server state ms w taken)
    {name : String} (hselect : selectedBy service form = some name)
    (hlong : Url.maxUri < (Urlencoded.encodeText name).length) {r : RegionId}
    (hr : r ≠ .reservationMessage) : .send r ∉ ms := by
  intro hsent
  obtain ⟨f, hf, -, hasks⟩ := h.mem_load_of_sent hr hsent
  have hnone : ∀ c : Call, ("restaurant_name", name) ∈ c.pairs →
      c.request? service.backendUrl = none := fun c hc => c.request?_of_long hc hlong _
  simp only [hselect, load, Operation.step, List.mem_cons, List.not_mem_nil, or_false] at hf
  rcases hf with rfl | rfl
  · exact Option.isSome_iff_ne_none.1 hasks (hnone (.detail name) List.mem_cons_self)
  · exact Option.isSome_iff_ne_none.1 hasks (hnone (.review name) List.mem_cons_self)

theorem mem_loads_of_selected {name : String} (hname : selectedBy service form = some name)
    {fill : Fill} (hfill : fill ∈ loads name) :
    fill ∈ (review service form).steps.flatMap Step.fills ∧ fill.region ≠ .reservationMessage := by
  have hload : fill ∈ (load (selectedBy service form)).fills := by
    rw [hname]
    exact hfill
  exact ⟨fills_review service form ▸ List.mem_cons_of_mem _ hload, mem_load hload⟩

theorem Reviewing.written_of_done (h : Reviewing service form server state ms w taken)
    (hw : w.waiting = []) {fill : Fill}
    (hfill : fill ∈ (review service form).steps.flatMap Step.fills) :
    ∃ outcome, w.document.region fill.region =
        Region.fresh.write (fill.content service.backendUrl outcome) ∧
      ((fill.request? service.backendUrl).isSome → .answer fill.region outcome ∈ ms) := by
  rw [fills_review] at hfill
  obtain ⟨outcome, hwritten, hanswer⟩ := h.follows.region_of_done hw hfill
  exact ⟨outcome, by rw [hwritten, Document.region_fresh], hanswer⟩

theorem loadsFollow (service : Service) (form : Form) (server : Server σ) (state : σ) :
    LoadsFollow service form server state where
  behind ms w taken h r hr hsent := by
    obtain ⟨outcome, hwritten, hanswer⟩ := h.posted_of_sent hr hsent
    refine ⟨by rw [hwritten]; rfl, ?_⟩
    rw [request?_post] at hanswer
    cases hreview : form.review with
    | error t => exact .inl ⟨t, rfl⟩
    | ok q =>
      rcases hq : (Call.postReview q).request? service.backendUrl with _ | request
      · exact .inr (.inl ⟨q, rfl, hq⟩)
      · refine .inr (.inr ⟨outcome, hanswer ?_⟩)
        simp [hreview, Except.map, Except.toOption, hq]
  answered ms w taken h a hmem := by
    obtain ⟨t, ht, hregion, -⟩ | ⟨f, hf⟩ := h.taken_of_answer _ _ hmem
    · have hpost : post form ∈ (review service form).steps.flatMap Step.fills := by
        simp [fills_review]
      refine ⟨t.request, h.request_of_taken (nodup_review service form) ht hpost
        (hregion.trans (region_post form).symm), ?_⟩
      rw [posted, ← hregion, h.filter_taken ht, List.map_singleton]
    · cases hf
  behind_post ms w taken h a ha t ht hr := h.outcome_behind_post ha ht hr
  shown ms w taken h hw name hname fill hfill := by
    obtain ⟨hmem, hr⟩ := mem_loads_of_selected hname hfill
    obtain ⟨outcome, hwritten, hanswer⟩ := h.written_of_done hw hmem
    refine ⟨outcome, hwritten, fun q hq => ?_⟩
    obtain ⟨t, ht, hregion, rfl⟩ | hf := h.taken_of_answer _ _ (hanswer (by simp [hq]))
    · have hrequest := h.request_of_taken (nodup_review service form) ht hmem hregion
      obtain rfl : t.request = q := by simpa [hq] using hrequest.symm
      rw [← hregion] at hr
      by_cases hpost : ∃ a, .answer .reservationMessage (.ok a) ∈ ms
      · obtain ⟨a, ha⟩ := hpost
        obtain ⟨others, hothers⟩ := h.outcome_behind_post ha ht hr
        exact .inr ⟨_, hothers, fun _ _ => List.prefix_append _ _⟩
      · obtain ⟨before, later, heq⟩ := List.append_of_mem ht
        exact .inr ⟨_, h.outcome_of_taken before t later heq, fun a ha => absurd ⟨a, ha⟩ hpost⟩
    · exact .inl hf
  once ms w taken h name hname fill hfill := by
    obtain ⟨hmem, -⟩ := mem_loads_of_selected hname hfill
    have hn := nodup_review service form
    have hnodup := Flow.nodup_sent hn h.run
    refine ⟨List.nodup_iff_count_le_one.1 hnodup _, fun hw => ?_⟩
    rw [hnodup.count]
    refine if_congr ?_ rfl rfl
    rw [Move.mem_filterMap_sent?, Flow.sent_iff_of_done h.run hw, Flow.mem_asking]
    refine ⟨?_, fun hasks => ⟨fill, hmem, hasks, rfl⟩⟩
    rintro ⟨f, hf, hasks, hregion⟩
    rwa [List.inj_on_of_nodup_map hn hf hmem hregion] at hasks
  unselected ms w taken h hnone := by
    refine ⟨fun r hr hsent => ?_, ?_, fun hw => ?_⟩
    · obtain ⟨f, hf, -, hasks⟩ := h.mem_load_of_sent hr hsent
      simp only [hnone, load, List.mem_singleton] at hf
      subst hf
      cases hasks
    · exact h.follows.other .reviews (by simp [hnone, load])
    · have hfill : .put .details (.rendered (.message "Pick a restaurant to see its details.")) ∈
          (review service form).steps.flatMap Step.fills := by simp [fills_review, hnone, load]
      obtain ⟨outcome, hwritten, -⟩ := h.written_of_done hw hfill
      exact hwritten
  message ms w taken h hw := by
    have hfill : post form ∈ (review service form).steps.flatMap Step.fills := by
      simp [fills_review]
    obtain ⟨outcome, hwritten, hanswer⟩ := h.written_of_done hw hfill
    rw [region_post] at hwritten hanswer
    refine ⟨outcome, hanswer, ?_⟩
    rw [hwritten, Step.region_finish (by simp [Operation.step])]
    simp [Operation.step, Operation.region_submit, post, Trace.fresh]
  ends ms w taken h := by
    obtain ⟨d, idle, flying, later⟩ := w
    exact Dialogue.exists_done later idle flying d ms taken h h.follows.flying_sent

end LoadsFollow

end PagePlan

end Bistro
