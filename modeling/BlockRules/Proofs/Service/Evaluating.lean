import BlockRules.Proofs.Service.Body
import BlockRules.Proofs.Service.Paths
import BlockRules.Proofs.Service.Rules
import BlockRules.Proofs.Value.Same

set_option autoImplicit false

/-!
# Ways to an evaluation

A rule is evaluated when it is tested, when a request brings it together with inputs, and when a request names it
among the stored ones and brings inputs or has them measured. All of these come to the same answer, except that a rule
may have to be valid. An answer repeats the inputs. These were read as data of JSON or measured, so that only their
depth can keep them out of it.

Lists and mappings are compared part by part, and each part by its value. Two parts that are one and the same object
count as equal before their values are looked at, which makes a difference for nan only; what is said of requests is
therefore said of inputs without nan inside lists and mappings.
-/
namespace BlockRules
open Gathering Value Text

namespace Document

end Document

namespace Service

/-- A request that has a document evaluated with some inputs, after a test of its validity or without one. -/
inductive Asks (s : Service) (device : Device) (d : Document) (inputs : Inputs) :
    ( tested : Bool) → Page → List Char → Prop where
  | given {body : List Char} {tested : Bool} (hbody : read EvaluateRequest.ofValue body = .ok ⟨d, inputs, tested⟩) :
    Asks s device d inputs tested .evaluate body
  | stored {id : String} {body : List Char} {l : Library} (hrules : s.rules.2 = .ok l) (hfound : l.get? id = some d)
    (hbody : read StoredRequest.ofValue body = .ok ⟨inputs, false⟩) :
    Asks s device d inputs true (.evaluateStored id) body
  | measured {id : String} {body : List Char} {l : Library} {others : Inputs} (hrules : s.rules.2 = .ok l)
    (hfound : l.get? id = some d) (hbody : read StoredRequest.ofValue body = .ok ⟨others, true⟩)
    (hinputs : device.readings.snapshot device.now = .ok inputs) :
    Asks s device d inputs true (.evaluateStored id) body

variable {s : Service} {device : Device} {d : Document} {inputs : Inputs} {tested : Bool} {page : Page}
  {body : List Char}

theorem Asks.areJson (h : s.Asks device d inputs tested page body) : inputs.AreJson := by
  cases h with
  | given hbody => exact areJson_of_evaluateRequest hbody
  | stored hrules hfound hbody => exact areJson_of_storedRequest hbody
  | measured hrules hfound hbody hinputs => exact Readings.areJson_of_snapshot hinputs

end Service

end BlockRules
