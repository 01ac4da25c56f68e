import ClusterDesk.Domain.Direction
import ClusterDesk.Domain.Joining
import ClusterDesk.Domain.Mapping
import ClusterDesk.Domain.Punycode
import ClusterDesk.Text.Composition

/-!
Names of hosts in any script, and their form in plain letters, digits and hyphens. Lengths and
hyphens are not restricted.
-/

namespace ClusterDesk.Domain

def isForbidden (c : Char) : Bool :=
  decide (c.toNat ≤ 32) || c.toNat = 127 || "%#/:<>?@[\\]^|".toList.contains c

def acePrefix : List Char := "xn--".toList

/-- The rules for a label that holds more than basic characters. -/
def isWellFormed (label : List Char) : Bool :=
  !(label.head?.any Combining.isMark) && joinersFit [] label

/-- The characters of a label, and its plain form. -/
def label? (label : List Char) : Option (List Char × List Char) :=
  if acePrefix.isPrefixOf label then
    match decode? (label.drop 4) with
    | some decoded =>
      if !decoded.all isBasic && decoded.all isValid && !decoded.any isForbidden &&
          decide (Composition.compose decoded = decoded) && isWellFormed decoded then
        some (decoded, label)
      else none
    | none => none
  else if label.all isBasic then some (label, label)
  else if isWellFormed label then some (label, acePrefix ++ encode label)
  else none

/-- The plain form of a name, if it is one. -/
def plain? (name : String) : Option String := do
  let mapped ← name.toList.mapM image?
  let composed := Composition.compose mapped.flatten
  if composed.any isForbidden then none
  else
    let labels ← (Split.pieces '.' composed).mapM label?
    let mixed := labels.any fun label => label.1.any isRightToLeft
    if mixed && !(labels.all fun label => isOneWay label.1) then none
    else some (".".intercalate (labels.map fun label => String.ofList label.2))

end ClusterDesk.Domain
