/-!
# Classes of HTTP status codes

Codes are whole numbers of any size; those outside `100` to `599` belong to no class.
-/

namespace DesiredState.StatusCode

/-- The family of success, `200` to `299`. -/
def isSuccess (code : Int) : Bool := 200 ≤ code && code < 300

/-- The families of client and server errors, `400` to `599`. -/
def isError (code : Int) : Bool := 400 ≤ code && code < 600

/-- The code for an object that does not exist. -/
def notFound : Int := 404

theorem isError_notFound : isError notFound = true := rfl

theorem isError_eq_false_of_isSuccess {code : Int} (h : isSuccess code = true) :
    isError code = false := by
  simp [isSuccess] at h
  simp [isError]
  omega

end DesiredState.StatusCode
