import OskManager.Model.Courses
import OskManager.Model.Events

/-! The request bodies of `schemas/course.schemas.ts` and the edit of `schemas/eventWrite.schemas.ts`,
once their fields have the right types: the ids are uuids, the dates are dates, the texts are
trimmed and the hours are a positive integer. -/

namespace OSK

structure BodyIssue where
  message : String
  path : List String
  deriving DecidableEq

def bodyIssueIf (c : Prop) [Decidable c] (message : String) (path : List String) : List BodyIssue :=
  if c then [⟨message, path⟩] else []

/-- The answer to a body that is refused names the first issue. -/
def parseWith {Body : Type} (issues : Body → List BodyIssue) (body : Body) : Except String Body :=
  match issues body with
  | [] => .ok body
  | issue :: _ => .error issue.message

def capacityIssues (capacity : Option ℤ) : List BodyIssue :=
  bodyIssueIf (capacity.any (fun n => decide (n < 0)) = true) "capacity must be >= 0" ["capacity"]

/-- The rules on a theory course, and on any other. -/
def theoryDateIssues (body : CreateCourseBody) : List BodyIssue :=
  if body.kind = .theoryGroup then
    match body.theoryStartDate, body.theoryEndDate with
    | some start, some stop =>
      bodyIssueIf (stop < start) "theoryEndDate must be on or after theoryStartDate"
        ["theoryEndDate"]
    | _, _ =>
      [⟨"theoryStartDate and theoryEndDate are required for THEORY_GROUP", ["theoryStartDate"]⟩]
  else
    bodyIssueIf (body.theoryStartDate ≠ none ∨ body.theoryEndDate ≠ none)
      "theoryStartDate and theoryEndDate are only for THEORY_GROUP" ["theoryStartDate"]

def createCourseBodyIssues (body : CreateCourseBody) : List BodyIssue :=
  bodyIssueIf (body.name = "") "name is required" ["name"] ++
  bodyIssueIf (body.category = "") "category is required" ["category"] ++
  capacityIssues body.capacity ++
  bodyIssueIf ((body.kind = .practical ∨ body.kind = .extra) ∧ body.capacity ≠ none)
    "capacity is only allowed for THEORY_GROUP courses" ["capacity"] ++
  theoryDateIssues body

def parseCreateCourseBody : CreateCourseBody → Except String CreateCourseBody :=
  parseWith createCourseBodyIssues

/-- Whether the fields fit together is left to the service, which knows the stored course. -/
def patchCourseBodyIssues (body : PatchCourseBody) : List BodyIssue :=
  bodyIssueIf (body.name = some "") "name is required" ["name"] ++
  bodyIssueIf (body.category = some "") "category is required" ["category"] ++
  capacityIssues body.capacity.join

def parsePatchCourseBody : PatchCourseBody → Except String PatchCourseBody :=
  parseWith patchCourseBodyIssues

def patchInstructorEventBodyIssues (body : PatchInstructorEventBody) : List BodyIssue :=
  capacityIssues body.capacity.join ++
  match body.startTime, body.endTime with
  | some start, some stop =>
    bodyIssueIf (start ≥ stop) "startTime must be before endTime" ["startTime"]
  | _, _ => []

def parsePatchInstructorEventBody :
    PatchInstructorEventBody → Except String PatchInstructorEventBody :=
  parseWith patchInstructorEventBodyIssues

/-! ### What is accepted -/

def CreateCourseBody.Accepted (body : CreateCourseBody) : Prop :=
  parseCreateCourseBody body = .ok body

def PatchCourseBody.Accepted (body : PatchCourseBody) : Prop :=
  parsePatchCourseBody body = .ok body

def PatchInstructorEventBody.Accepted (body : PatchInstructorEventBody) : Prop :=
  parsePatchInstructorEventBody body = .ok body

theorem parseWith_eq_ok {Body : Type} {issues : Body → List BodyIssue} {body : Body} :
    parseWith issues body = .ok body ↔ issues body = [] := by
  unfold parseWith
  split <;> simp_all

theorem bodyIssueIf_eq_nil {c : Prop} [Decidable c] {message : String} {path : List String} :
    bodyIssueIf c message path = [] ↔ ¬c := by
  simp [bodyIssueIf]

theorem capacityIssues_eq_nil {capacity : Option ℤ} :
    capacityIssues capacity = [] ↔ ∀ n, capacity = some n → 0 ≤ n := by
  cases capacity <;> simp [capacityIssues, bodyIssueIf_eq_nil]

/-- What an accepted body of a new course says about its seats and its dates. -/
structure CreateCourseBody.Consistent (body : CreateCourseBody) : Prop where
  capacity_nonneg : ∀ n, body.capacity = some n → 0 ≤ n
  theory : body.kind = .theoryGroup → ∃ start stop, body.theoryStartDate = some start ∧
    body.theoryEndDate = some stop ∧ start ≤ stop

theorem CreateCourseBody.Accepted.consistent {body : CreateCourseBody} (h : body.Accepted) :
    body.Consistent := by
  simp only [Accepted, parseCreateCourseBody, parseWith_eq_ok, createCourseBodyIssues,
    List.append_eq_nil_iff, capacityIssues_eq_nil] at h
  obtain ⟨⟨⟨⟨-, -⟩, hcapacity⟩, -⟩, hdates⟩ := h
  refine ⟨hcapacity, fun hkind => ?_⟩
  rw [theoryDateIssues, if_pos hkind] at hdates
  split at hdates
  · next start stop hstart hstop =>
    exact ⟨start, stop, hstart, hstop, not_lt.mp (bodyIssueIf_eq_nil.mp hdates)⟩
  · cases hdates

end OSK
