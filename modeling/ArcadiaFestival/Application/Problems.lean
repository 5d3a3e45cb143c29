import ArcadiaFestival.Application.PublicPages

/-! Every answer is a page or a problem document. The details of an error are written over the
document, and none of them is called as one of its own fields. -/
namespace Arcadia
open Library Fallible

/-- The fields of a problem document, told with this status. -/
structure Document (status : Nat) (body : Dict String Json) : Prop where
  type : body.get? "type" = some (.str "about:blank")
  title : ∃ title, body.get? "title" = some (.str title) ∧
    (title = "HTTP_ERROR" ∨ ∃ code : Code, title = code.text ∧ code.httpStatus = status)
  status : body.get? "status" = some (.int status)
  detail : ∃ detail, body.get? "detail" = some (.str detail)
  /-- A reason that is there says something. -/
  reason : ∀ value, body.get? "reason" = some value → ∃ reason, value = .str reason ∧ reason ≠ ""

/-- What a client can make of an answer: a page of JSON, or a problem document
with the status of an error. -/
inductive Response.WellFormed (response : Response) : Prop where
  | page (status : response.status = 200 ∨ response.status = 201)
      (mediaType : response.mediaType = "application/json")
  | problem (status : 400 ≤ response.status)
      (mediaType : response.mediaType = "application/problem+json")
      (document : ∃ body : Dict String Json, response.body = .obj body.rows ∧
        Document response.status body)

/-- The fields of the document itself. -/
def documentFields : List String := ["type", "title", "status", "detail", "reason"]

/-- The extra fields of a problem are merged into the document last. They leave
its own fields alone if they have other names. -/
theorem get?_updateBody {extra : Fields} (hExtra : ∀ entry ∈ extra, entry.1 ∉ documentFields)
    {key : String} (hKey : key ∈ documentFields) (body : Dict String Json) :
    (updateBody body extra).get? key = body.get? key := by
  refine Dict.get?_foldl_set_of_not_mem (fun hMem => ?_) body
  obtain ⟨entry, hEntry, rfl⟩ := List.mem_map.mp hMem
  exact hExtra entry hEntry hKey

/-- Every problem document that is built from a status of an error, with a
title that belongs to it, is well formed. -/
theorem problem_wellFormed {status : Nat} {title : String} (hStatus : 400 ≤ status)
    (hTitle : title = "HTTP_ERROR" ∨ ∃ code : Code, title = code.text ∧ code.httpStatus = status)
    (correlationId detail reason : String) {extra : Fields}
    (hExtra : ∀ entry ∈ extra, entry.1 ∉ documentFields) :
    (problem correlationId status title detail reason extra).WellFormed := by
  have hKeep {key : String} (hKey : key ∈ documentFields) (body : Dict String Json) :=
    get?_updateBody hExtra hKey body
  refine .problem hStatus rfl ⟨_, rfl, ?_, ⟨title, ?_, hTitle⟩, ?_, ⟨detail, ?_⟩, fun value hValue => ?_⟩
  · rw [hKeep (by simp [documentFields])]
    split_ifs <;> simp [Dict.get?_set]
  · rw [hKeep (by simp [documentFields])]
    split_ifs <;> simp [Dict.get?_set]
  · change _ = some (Json.int status)
    rw [hKeep (by simp [documentFields])]
    split_ifs <;> simp [Dict.get?_set]
  · rw [hKeep (by simp [documentFields])]
    split_ifs <;> simp [Dict.get?_set]
  · rw [hKeep (by simp [documentFields])] at hValue
    split_ifs at hValue with hReason
    · simp [Dict.get?_set, Dict.get?_empty] at hValue
    · rw [Dict.get?_set_self] at hValue
      exact ⟨reason, (Option.some.inj hValue).symm, hReason⟩

theorem Code.httpStatus_ge (code : Code) : 400 ≤ code.httpStatus := by
  cases code <;> decide

/-- A failure that its handler can tell: the details of the error keep clear of
the document, and the status is one of an error. -/
def Failure.Tellable : Failure → Prop
  | .exn (.appError error) => error.Tidy
  | .http statusCode _ => 400 ≤ statusCode
  | _ => True

/-- The handlers of the application turn each such failure into a well-formed
document. -/
theorem Failure.Tellable.wellFormed {failure : Failure} (h : failure.Tellable) (correlationId : String) :
    (failure.response correlationId).WellFormed := by
  have hNone : ∀ entry ∈ ([] : Fields), entry.1 ∉ documentFields := fun _ hEntry => by cases hEntry
  cases failure with
  | validation errors =>
      refine problem_wellFormed (by decide) (Or.inr ⟨.invalidArgument, rfl, rfl⟩) _ _ _ ?_
      simp [documentFields]
  | http statusCode detail => exact problem_wellFormed h (Or.inl rfl) _ _ _ hNone
  | exn e =>
      cases e with
      | appError error =>
          refine problem_wellFormed error.code.httpStatus_ge (Or.inr ⟨error.code, rfl, rfl⟩) _ _ _ ?_
          intro entry hEntry
          obtain ⟨detail, hDetail, rfl⟩ := List.mem_map.mp hEntry
          exact h detail hDetail
      | _ => exact problem_wellFormed (by decide) (Or.inr ⟨.internal, rfl, rfl⟩) _ _ _ hNone

theorem Failure.BadRequest.tellable {failure : Failure} (h : failure.BadRequest) : failure.Tellable := by
  cases failure with
  | validation errors => trivial
  | http statusCode detail =>
      obtain rfl : statusCode = 400 := h
      exact le_refl 400
  | exn e => exact h.elim

/-- An exception without a code is told as an internal error, and nothing of it
is shown. -/
theorem Exn.Unclassified.tellable {e : Exn} (h : e.Unclassified) : (Failure.exn e).Tellable := by
  cases e with
  | appError error => exact absurd rfl (h error)
  | _ => trivial

theorem AppError.tidy_of_nil {error : AppError} (h : error.details = []) : error.Tidy := by
  intro entry hEntry
  rw [h] at hEntry
  cases hEntry

theorem App.resolve_tellable {app : App} {visit : Visit} {failure : Failure}
    (h : app.resolve visit = .error failure) : failure.Tellable := by
  rcases AdminCall.useCase_error h with ⟨e, hCaller, rfl⟩ | hRequest
  · rcases Gate.require_error hCaller with ⟨error, rfl, _, hDetails⟩ | ⟨_, rfl⟩ | ⟨message, rfl⟩
    · exact AppError.tidy_of_nil hDetails
    · exact AppError.tidy_of_nil rfl
    · trivial
  · exact hRequest.tellable

theorem App.observe_wellFormed (app : App) (visit : Visit) (db : Database) (hForeign : visit.env.Foreign) :
    (app.observe visit db).1.WellFormed := by
  unfold observe
  cases hResolve : app.resolve visit with
  | error failure =>
      rw [handle_rejected hResolve]
      exact (resolve_tellable hResolve).wellFormed _
  | ok useCase =>
      have hEnds := @UseCase.run_ends app.cfg app.rt visit.served db hForeign.served useCase
      rw [handle_resolved hResolve]
      change (app.respond visit ((useCase.run app.cfg app.rt visit.served db).1.mapError .exn)).WellFormed
      generalize (useCase.run app.cfg app.rt visit.served db).1 = result at hEnds
      generalize (useCase.run app.cfg app.rt visit.served db).2 = db' at hEnds
      cases hEnds with
      | @rejected error classified =>
          exact (show (Failure.exn (.appError error)).Tellable from classified.tidy).wellFormed _
      | failed unclassified => exact unclassified.tellable.wellFormed _
      | shown done detail =>
          refine .page ?_ rfl
          change visit.call.statusCode = 200 ∨ visit.call.statusCode = 201
          cases visit.call <;> simp [AdminCall.statusCode]

namespace Storefront
variable {front : Storefront} {visit : PublicVisit} {db : Database} {query : FestivalQuery}

/-- What the reader of a page may meet: an error of the service, or of what is
underneath. -/
theorem serve_tellable (hForeign : visit.env.Foreign)
    (hLoads : ∀ text e, front.json.loads text = .error e → e.Unclassified) (redis : Redis) {e : Exn}
    (h : ((front.browsing visit.env db).serve redis ⟨visit.times, query, visit.turn⟩).1 = .error e) :
    (Failure.exn e).Tellable := by
  rw [serve_eq] at h
  set p := (front.browsing visit.env db).policy
  set v := (front.browsing visit.env db).visit ⟨visit.times, query, visit.turn⟩
  cases hFound : p.found redis v with
  | some text =>
      have hReply : p.reply redis v = front.json.loads text := by
        rw [ReadThrough.Policy.reply, hFound]
        rfl
      exact (hLoads text e (hReply.symm.trans h)).tellable
  | none =>
      have hAnswer : front.answer db visit query = .error e :=
        (ReadThrough.Policy.reply_of_none hFound).symm.trans h
      rcases answer_raises hForeign hAnswer with hUnclassified | ⟨festivalId, _, _, rfl⟩
      · exact hUnclassified.tellable
      · exact (show AppError.Tidy _ by simp [AppError.Tidy])

/-- A visit to the public pages gets its page or a well-formed problem, if
every error of the query can be told. -/
theorem respond_wellFormed {result : Except Exn Json}
    (h : ∀ e, result = .error e → (Failure.exn e).Tellable) :
    (front.respond visit query result).WellFormed := by
  cases result with
  | error e => exact (h e rfl).wellFormed _
  | ok value =>
      cases hModel : front.serialized value query with
      | none =>
          simp only [respond, hModel]
          exact (unclassified_builtin _ _).tellable.wellFormed _
      | some body =>
          simp only [respond, hModel]
          exact .page (Or.inl rfl) rfl

/-- The query of a public page fails on the storage, on the cached text or on
the page. None of them has a code. -/
theorem observe_wellFormed (hForeign : visit.env.Foreign)
    (hLoads : ∀ text e, front.json.loads text = .error e → e.Unclassified) (redis : Redis) :
    (front.observe visit db redis).1.WellFormed := by
  unfold observe
  cases hQuery : front.query visit.call with
  | error failure =>
      obtain ⟨errors, rfl⟩ := query_error hQuery
      exact (show (Failure.validation errors).Tellable from trivial).wellFormed _
  | ok query => exact respond_wellFormed fun e h => serve_tellable hForeign hLoads redis h

/-- Whoever asks for what, whatever the database and the cache hold and
whatever fails underneath, the answer is a page, or a problem document whose
title and status are those of the failure. -/
theorem answers_wellFormed (front : Storefront)
    (hLoads : ∀ text e, front.json.loads text = .error e → e.Unclassified) :
    (∀ (visit : Visit) (db : Database), visit.env.Foreign →
      (front.app.observe visit db).1.WellFormed) ∧
    ∀ (visit : PublicVisit) (db : Database) (redis : Redis), visit.env.Foreign →
      (front.observe visit db redis).1.WellFormed :=
  ⟨fun visit db hForeign => front.app.observe_wellFormed visit db hForeign,
    fun _ _ redis hForeign => observe_wellFormed hForeign hLoads redis⟩

end Storefront

theorem Sample.loadsPage_error {text : String} {e : Exn} (h : loadsPage text = .error e) :
    e.Unclassified := by
  unfold loadsPage at h
  split_ifs at h
  obtain rfl := Except.error.inj h
  exact unclassified_builtin _ _

open Sample in
/-- The sale cannot be started before it is there, and nobody can read it
either. -/
theorem Storefront.answers_wellFormed_absent :
    (front.app.observe (visit (.startFestival "fest-1") 1) start).1.WellFormed ∧
      (front.observe (reader 1) start .empty).1.WellFormed :=
  have hAll := answers_wellFormed front fun _ _ h => loadsPage_error h
  ⟨hAll.1 _ _ (foreign_env 1), hAll.2 _ _ _ (foreign_env 3)⟩

open Sample in
example : (front.app.observe (visit (.startFestival "fest-1") 1) start).1.status = 404 := by
  decide +kernel

end Arcadia
