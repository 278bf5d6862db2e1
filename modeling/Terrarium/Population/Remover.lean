import Terrarium.Attempt
import Terrarium.Random.Draw

/-!
Policies that choose who leaves a population that is too large. Both see the members
in creation order.
-/

namespace Terrarium

inductive Remover where
  | random
  | oldest
deriving DecidableEq

namespace Remover

def title : Remover → String
  | random => "RandomRemover"
  | oldest => "OldestRemover"

/-- Takes out `count` members one at a time, each at a place drawn from those that
are left. -/
def drawOut {α : Type} : Nat → List α → Generator → List α × Generator
  | 0, _, g => ([], g)
  | count + 1, members, g =>
      let (place, g) := g.below members.length
      match members[place]? with
      | none => ([], g)
      | some victim =>
          let (rest, g) := drawOut count (members.eraseIdx place) g
          (victim :: rest, g)

/-- The members to remove so that at most `keep` are left, in order of removal. There
is no draw among nobody, which is where keeping fewer than none ends. -/
def choose {α : Type} (remover : Remover) (members : List α) (keep : Int) (g : Generator) :
    Attempt Generator (List α) :=
  match remover with
  | oldest => .done g (members.take (members.length - keep).toNat)
  | random =>
      let (victims, g) := drawOut (members.length - max keep 0).toNat members g
      if keep < 0 then .fail g .emptyDraw else .done g victims

end Remover
end Terrarium
