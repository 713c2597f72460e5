import RedisClient.Command.Method

/-!
# Calls

A call is a method with its arguments. Before anything is sent its arguments are checked; a call
that passes is one command, and its answer is read from the reply as the method says.
-/

namespace RedisClient

structure Call where
  method : Method
  args : Args method.spec.params

namespace Call

/-- Why the call is refused: the reason for its first argument that is. -/
def refusal? (c : Call) : Option Error := Args.refusal? c.method.spec.params c.args

def command (c : Call) : List String :=
  c.method.spec.opening ++ Args.words c.method.spec.params c.args

def commandName (c : Call) : String := c.method.spec.opening.headD ""

/-- How long the command may block on the server, in seconds. -/
def blockSeconds? (c : Call) : Option UInt64 := Args.blockSeconds? c.method.spec.params c.args

end Call

end RedisClient
