import Tabular.Text.Bytes
import Tabular.Text.Cluster

/-!
# Erasing

A backspace in a typed line takes back the cluster that was typed last. The size of a cluster is
kept in one byte, so of a cluster of 256 bytes or more only the excess is taken back. Where that
would cut a character in two, the line cannot be read.
-/

namespace Tabular.Text

/-- The character that takes back what was typed last. -/
def backspace : Char := Char.ofNat 8

/-- What has been typed: its characters and the sizes of its clusters, the last ones first. -/
structure Typed where
  reversed : List Char := []
  sizes : List Nat := []

/-- The text that has been typed. -/
def Typed.text (typed : Typed) : List Char := typed.reversed.reverse

/-- Types a cluster, or takes back the last one where the cluster is a backspace. -/
def Typed.add (typed : Typed) (cluster : List Char) : Except Cut Typed :=
  if cluster = [backspace] then
    match typed.sizes with
    | [] => .ok typed
    | size :: sizes =>
      (takeBytes (byteSize typed.text - size) typed.text).map fun left =>
        { reversed := left.reverse, sizes }
  else
    .ok { reversed := cluster.reverse ++ typed.reversed
          sizes := byteSize cluster % 256 :: typed.sizes }

/-- A typed line after its backspaces. -/
def erased (line : String) : Except Cut String := do
  let typed ← (clusters line.toList).foldlM Typed.add {}
  return .ofList typed.text

end Tabular.Text
