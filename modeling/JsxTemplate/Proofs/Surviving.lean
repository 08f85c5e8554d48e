import JsxTemplate.Proofs.Growing
import JsxTemplate.Proofs.Unreadable
import JsxTemplate.Proofs.Watching

/-!
# Outliving broken templates

A session that applies changes comes to the reported templates one after the other.
What is wrong with one of them is noted and the session goes on to the next, unless it
is blocked: the file cannot be read at all, its tree is too deep, or what is to be said
of it cannot be shown. Then the session ends there, and nothing is done for the
templates that are left.
-/

namespace JsxTemplate

/-- A session that brings paths up to date in turn comes to one of them, in the world
that the paths before it have left. -/
inductive Reached (config : Config) (src out : Path) : World → List Path → Path → World → Prop
  | here {w : World} {p : Path} {ps : List Path} : Reached config src out w (p :: ps) p w
  | later {w w₁ w' : World} {p q : Path} {ps : List Path} {made : Option Path}
    (first : (Session.refresh config src out p).run w = .ok made w₁)
    (rest : Reached config src out w₁ ps q w') : Reached config src out w (p :: ps) q w'

variable {config : Config} {src out p target : Path} {w w₁ w' : World}

namespace Host

variable {host : Host} {bytes : Text.Bytes}

end Host

namespace Session

/-! ## One path -/

theorem look_of_read {bytes : Text.Bytes} (hfile : w.files.read w.cwd p = .ok bytes) :
    (look p).run w = .ok (some (.file bytes)) w := by
  rw [run_look, Store.read_eq_ok_iff.mp hfile]

end Session

/-! ## Two templates -/

/-- A template whose paragraph is not closed yet. -/
def draft : Text.Bytes := Text.encode "<template><p></template>"

end JsxTemplate
