import RecipeResolver.Recipe.Request

/-!
# The protocol of a run

A run hands a plan to a build driver and metadata to a registry. To speak about who is called, in
which order and with what, both are replaced by parties that behave as they do and write each call
down: `run_recorded` says that this changes nothing else.

The calls and the answer of a run take one of four courses (`Course`): the request is rejected, the
driver refuses, the registry refuses, or everything succeeds. What is promised about a run is read
off the courses.
-/

namespace RecipeResolver

/-- A call of the driver or of the registry, and how it was answered. -/
inductive Call where
  | drive (plan : Plan) (answer : Except Failure Unit)
  | publish (metadata : PackageMetadata) (answer : Except Failure Unit)

namespace Call

/-- Whether the driver is called. -/
def isDrive : Call → Bool
  | drive _ _ => true
  | publish _ _ => false

/-- Whether the registry is called. -/
def isPublish : Call → Bool
  | drive _ _ => false
  | publish _ _ => true

end Call

/-- The same party, whose calls are written down in order. -/
def Recipient.recorded {σ α : Type} (call : α → Except Failure Unit → Call)
    (party : Recipient σ α) : Recipient (σ × List Call) α :=
  fun a state =>
    (((party a state.1).1, state.2 ++ [call a (party a state.1).2]), (party a state.1).2)

namespace Request

variable {σ : Type} (r : Request) (files : FileTree) (driver : Recipient σ Plan)
  (registry : Recipient σ PackageMetadata) (state : σ)

/-- A run with parties whose calls are written down. -/
def recordedRun : (σ × List Call) × Step Resolution :=
  r.run files (driver.recorded .drive) (registry.recorded .publish) (state, [])

/-- The calls of a run, the first one first. -/
def calls : List Call :=
  (r.recordedRun files driver registry state).1.2

/-- How a run can go: its calls and its answer. -/
inductive Course (r : Request) (files : FileTree) : List Call → Except Failure Resolution → Prop
  | rejected {f : Failure} (h : (r.resolve files).result = .error f) : Course r files [] (.error f)
  | unbuilt {c : Resolution} (h : (r.resolve files).result = .ok c) (f : Failure) :
    Course r files [.drive (r.plan c) (.error f)]
      (.error (f.within (.driving c.package.reference)))
  | unpublished {c : Resolution} (h : (r.resolve files).result = .ok c) (f : Failure) :
    Course r files [.drive (r.plan c) (.ok ()), .publish c.metadata (.error f)]
      (.error (f.within (.publishing c.package.reference)))
  | complete {c : Resolution} (h : (r.resolve files).result = .ok c) :
    Course r files [.drive (r.plan c) (.ok ()), .publish c.metadata (.ok ())] (.ok c)

/-! ## One hand-over -/

/-- Writing the calls down changes neither what the parties do nor the answer. -/
theorem handOver_recorded (plan : Plan) (c : Resolution) (earlier : List Call) :
    (handOver (driver.recorded .drive) (registry.recorded .publish) plan c (state, earlier)).1.1 =
        (handOver driver registry plan c state).1 ∧
      (handOver (driver.recorded .drive) (registry.recorded .publish) plan c (state, earlier)).2 =
        (handOver driver registry plan c state).2 := by
  unfold handOver Recipient.recorded
  rcases driver plan state with ⟨built, _ | _⟩
  · exact ⟨rfl, rfl⟩
  · dsimp only
    rcases registry c.metadata built with ⟨published, _ | _⟩ <;> exact ⟨rfl, rfl⟩

/-- A resolved request takes one of the three courses that begin with a call of the driver. -/
theorem handOver_course {c : Resolution} (h : (r.resolve files).result = .ok c) :
    Course r files
      (handOver (driver.recorded .drive) (registry.recorded .publish) (r.plan c) c (state, [])).1.2
      (handOver driver registry (r.plan c) c state).2 := by
  unfold handOver Recipient.recorded
  rcases driver (r.plan c) state with ⟨built, f | _⟩
  · exact .unbuilt h f
  · dsimp only
    rcases registry c.metadata built with ⟨published, f | _⟩
    · exact .unpublished h f
    · exact .complete h

/-! ## Whole runs -/

/-- A run of a rejected request hands nothing over. -/
theorem run_of_rejected {f : Failure} (h : (r.resolve files).result = .error f) :
    r.run files driver registry state = (state, r.resolve files) := by
  unfold run
  dsimp only
  rw [h]

/-- A run of a resolved request is one hand-over. -/
theorem run_of_resolved {c : Resolution} (h : (r.resolve files).result = .ok c) :
    r.run files driver registry state =
      ((handOver driver registry (r.plan c) c state).1,
        ⟨(r.resolve files).events, (handOver driver registry (r.plan c) c state).2⟩) := by
  unfold run
  dsimp only
  rw [h]

/-- Writing the calls down changes neither what the parties do nor the outcome of a run. -/
theorem run_recorded :
    (r.recordedRun files driver registry state).1.1 = (r.run files driver registry state).1 ∧
      (r.recordedRun files driver registry state).2 = (r.run files driver registry state).2 := by
  unfold recordedRun
  cases h : (r.resolve files).result with
  | error f =>
    rw [run_of_rejected r files _ _ _ h, run_of_rejected r files _ _ _ h]
    exact ⟨rfl, rfl⟩
  | ok c =>
    have hsame := handOver_recorded driver registry state (r.plan c) c []
    rw [run_of_resolved r files _ _ _ h, run_of_resolved r files _ _ _ h]
    refine ⟨hsame.1, ?_⟩
    show Logged.mk _ _ = Logged.mk _ _
    rw [hsame.2]

/-- Every run takes one of the four courses. -/
theorem run_course :
    Course r files (r.calls files driver registry state)
      (r.run files driver registry state).2.result := by
  unfold calls recordedRun
  cases h : (r.resolve files).result with
  | error f =>
    rw [run_of_rejected r files _ _ _ h, run_of_rejected r files _ _ _ h]
    show Course r files [] (r.resolve files).result
    rw [h]
    exact .rejected h
  | ok c =>
    rw [run_of_resolved r files _ _ _ h, run_of_resolved r files _ _ _ h]
    exact handOver_course r files driver registry state h

/-! ## What the courses have in common -/

namespace Course

variable {r files} {calls : List Call} {answer : Except Failure Resolution}

/-- Each party is called at most once. -/
theorem countP_le_one (h : Course r files calls answer) :
    calls.countP Call.isDrive ≤ 1 ∧ calls.countP Call.isPublish ≤ 1 := by
  cases h <;> simp [List.countP_cons, Call.isDrive, Call.isPublish]

/-- The driver is called if and only if the request resolves. -/
theorem drive_mem_iff (h : Course r files calls answer) :
    (∃ plan reply, .drive plan reply ∈ calls) ↔ ∃ c, (r.resolve files).result = .ok c := by
  cases h with
  | rejected hr => simp [hr]
  | unbuilt hr f => simp [hr]
  | unpublished hr f => simp [hr]
  | complete hr => simp [hr]

/-- The registry is called if and only if the driver has succeeded. -/
theorem publish_mem_iff (h : Course r files calls answer) :
    (∃ metadata reply, .publish metadata reply ∈ calls) ↔ ∃ plan, .drive plan (.ok ()) ∈ calls := by
  cases h <;> simp

/-- A call of the driver that comes first comes before every call of the registry. -/
theorem drive_mem_before {plan : Plan} {reply reply' : Except Failure Unit}
    {metadata : PackageMetadata} {rest before after : List Call}
    (h : .drive plan reply :: rest = before ++ .publish metadata reply' :: after) :
    .drive plan reply ∈ before := by
  rcases before with _ | ⟨first, before⟩
  · rw [List.nil_append, List.cons.injEq] at h
    cases h.1
  · rw [List.cons_append, List.cons.injEq] at h
    rw [h.1]
    exact List.mem_cons_self

/-- Whenever the registry is called, the driver has been called before and has succeeded. -/
theorem drive_before_publish (h : Course r files calls answer) {before after : List Call}
    {metadata : PackageMetadata} {reply : Except Failure Unit}
    (hcalls : calls = before ++ .publish metadata reply :: after) :
    ∃ plan, .drive plan (.ok ()) ∈ before := by
  cases h with
  | rejected hr => simp at hcalls
  | unbuilt hr f =>
    -- the only call is one of the driver, so nothing is left for the registry
    have hlength := congrArg List.length hcalls
    have hbefore := List.length_pos_of_mem (drive_mem_before hcalls)
    rw [List.length_append, List.length_cons, List.length_cons, List.length_nil] at hlength
    omega
  | unpublished hr f => exact ⟨_, drive_mem_before hcalls⟩
  | complete hr => exact ⟨_, drive_mem_before hcalls⟩

/-- The driver is handed the plan for the resolution. -/
theorem plan_of_mem (h : Course r files calls answer) {plan : Plan} {reply : Except Failure Unit}
    (hmem : .drive plan reply ∈ calls) :
    ∃ c, (r.resolve files).result = .ok c ∧
      plan = .ofResolution r.revision.schema c r.settings.os := by
  cases h with
  | rejected hr => simp at hmem
  | @unbuilt c hr f =>
    simp only [List.mem_singleton, Call.drive.injEq] at hmem
    exact ⟨c, hr, hmem.1⟩
  | @unpublished c hr f =>
    simp only [List.mem_cons, Call.drive.injEq, reduceCtorEq, List.not_mem_nil, or_false] at hmem
    exact ⟨c, hr, hmem.1⟩
  | @complete c hr =>
    simp only [List.mem_cons, Call.drive.injEq, reduceCtorEq, List.not_mem_nil, or_false] at hmem
    exact ⟨c, hr, hmem.1⟩

/-- The registry is handed the metadata of the resolution. -/
theorem metadata_of_mem (h : Course r files calls answer) {metadata : PackageMetadata}
    {reply : Except Failure Unit} (hmem : .publish metadata reply ∈ calls) :
    ∃ c, (r.resolve files).result = .ok c ∧ metadata = c.metadata := by
  cases h with
  | rejected hr => simp at hmem
  | unbuilt hr f => simp at hmem
  | @unpublished c hr f =>
    simp only [List.mem_cons, Call.publish.injEq, reduceCtorEq, List.not_mem_nil, or_false,
      false_or] at hmem
    exact ⟨c, hr, hmem.1⟩
  | @complete c hr =>
    simp only [List.mem_cons, Call.publish.injEq, reduceCtorEq, List.not_mem_nil, or_false,
      false_or] at hmem
    exact ⟨c, hr, hmem.1⟩

/-- The answer is the resolution if and only if both parties have succeeded. -/
theorem answer_eq_ok_iff (h : Course r files calls answer) (c : Resolution) :
    answer = .ok c ↔ (r.resolve files).result = .ok c ∧
      (∃ plan, .drive plan (.ok ()) ∈ calls) ∧ ∃ metadata, .publish metadata (.ok ()) ∈ calls := by
  cases h with
  | rejected hr => simp [hr]
  | unbuilt hr f => simp
  | unpublished hr f => simp
  | complete hr => simp [hr]

/-- A rejected request is answered with its own error. -/
theorem answer_of_rejected (h : Course r files calls answer) {f : Failure}
    (hr : (r.resolve files).result = .error f) : answer = .error f := by
  cases h with
  | rejected hr' => rw [← hr', hr]
  | unbuilt hr' => rw [hr] at hr'; cases hr'
  | unpublished hr' => rw [hr] at hr'; cases hr'
  | complete hr' => rw [hr] at hr'; cases hr'

/-- Nobody is called for a rejected request. -/
theorem calls_of_rejected (h : Course r files calls answer) {f : Failure}
    (hr : (r.resolve files).result = .error f) : calls = [] := by
  cases h with
  | rejected hr' => rfl
  | unbuilt hr' => rw [hr] at hr'; cases hr'
  | unpublished hr' => rw [hr] at hr'; cases hr'
  | complete hr' => rw [hr] at hr'; cases hr'

/-- A refusal of either party is the answer, with the package among its circumstances. -/
theorem answer_of_refused (h : Course r files calls answer) {c : Resolution}
    (hr : (r.resolve files).result = .ok c) :
    (∀ plan f, .drive plan (.error f) ∈ calls →
        answer = .error (f.within (.driving c.package.reference))) ∧
      ∀ metadata f, .publish metadata (.error f) ∈ calls →
        answer = .error (f.within (.publishing c.package.reference)) := by
  cases h with
  | rejected hr' => simp
  | unbuilt hr' f =>
    rw [hr] at hr'
    cases hr'
    simp
  | unpublished hr' f =>
    rw [hr] at hr'
    cases hr'
    simp
  | complete hr' => simp

end Course

/-- What a run promises. Each party is called at most once: the driver if and only if the request
resolves, and the registry if and only if the driver has succeeded before. They are handed the plan
and the metadata of that resolution. The run answers with the resolution if and only if both have
succeeded, and otherwise with the error of the step that failed. -/
theorem run_keeps_protocol :
    ((r.recordedRun files driver registry state).1.1 = (r.run files driver registry state).1 ∧
      (r.recordedRun files driver registry state).2 = (r.run files driver registry state).2) ∧
    ((r.calls files driver registry state).countP Call.isDrive ≤ 1 ∧
      (r.calls files driver registry state).countP Call.isPublish ≤ 1) ∧
    ((∃ plan answer, .drive plan answer ∈ r.calls files driver registry state) ↔
      ∃ c, (r.resolve files).result = .ok c) ∧
    ((∃ metadata answer, .publish metadata answer ∈ r.calls files driver registry state) ↔
      ∃ plan, .drive plan (.ok ()) ∈ r.calls files driver registry state) ∧
    (∀ before metadata answer after,
      r.calls files driver registry state = before ++ .publish metadata answer :: after →
        ∃ plan, .drive plan (.ok ()) ∈ before) ∧
    (∀ plan answer, .drive plan answer ∈ r.calls files driver registry state →
      ∃ c, (r.resolve files).result = .ok c ∧
        plan = .ofResolution r.revision.schema c r.settings.os) ∧
    (∀ metadata answer, .publish metadata answer ∈ r.calls files driver registry state →
      ∃ c, (r.resolve files).result = .ok c ∧ metadata = c.metadata) ∧
    (∀ c, (r.run files driver registry state).2.result = .ok c ↔
      (r.resolve files).result = .ok c ∧
        (∃ plan, .drive plan (.ok ()) ∈ r.calls files driver registry state) ∧
        ∃ metadata, .publish metadata (.ok ()) ∈ r.calls files driver registry state) ∧
    (∀ f, (r.resolve files).result = .error f →
      (r.run files driver registry state).2.result = .error f) ∧
    (∀ c, (r.resolve files).result = .ok c →
      (∀ plan f, .drive plan (.error f) ∈ r.calls files driver registry state →
        (r.run files driver registry state).2.result =
          .error (f.within (.driving c.package.reference))) ∧
      ∀ metadata f, .publish metadata (.error f) ∈ r.calls files driver registry state →
        (r.run files driver registry state).2.result =
          .error (f.within (.publishing c.package.reference))) := by
  refine ⟨r.run_recorded files driver registry state, ?_⟩
  have hcourse := r.run_course files driver registry state
  refine ⟨hcourse.countP_le_one, hcourse.drive_mem_iff, hcourse.publish_mem_iff, ?_, ?_, ?_,
    hcourse.answer_eq_ok_iff, ?_, ?_⟩
  · intro before metadata answer after hcalls
    exact hcourse.drive_before_publish hcalls
  · intro plan answer hmem
    exact hcourse.plan_of_mem hmem
  · intro metadata answer hmem
    exact hcourse.metadata_of_mem hmem
  · intro f hr
    exact hcourse.answer_of_rejected hr
  · intro c hr
    exact hcourse.answer_of_refused hr

end Request

end RecipeResolver
