/-!
# Handles

Nodes and ports are named by handles. A handle records the graph that issued it and
its serial number among the handles of its role there, so handles of different graphs
never meet, and a handle of one role cannot stand for another.
-/

namespace Blueprint

/-- What a handle names. -/
inductive Role where
  | node
  | input
  | output
  | enter
  | exit
deriving Repr, DecidableEq

/-- A handle of the given role: the tag of the graph that issued it and its serial
number there. -/
structure Handle (role : Role) where
  graph : Nat
  index : Nat
deriving Repr, DecidableEq, Hashable, Inhabited

/-- A handle of a node. -/
abbrev NodeId := Handle .node
/-- A handle of an input port, which receives data. -/
abbrev InputId := Handle .input
/-- A handle of an output port, which sends data. -/
abbrev OutputId := Handle .output
/-- A handle of an enter port, through which control arrives. -/
abbrev EnterId := Handle .enter
/-- A handle of an exit port, through which control leaves. -/
abbrev ExitId := Handle .exit

end Blueprint
