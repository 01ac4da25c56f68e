import ClusterDesk.Http

/-!
Replies laid down beforehand. Requests for YAML and all others are answered from lists of their
own, each in order; when a list is used up, every further request gets the same last reply.
-/

namespace ClusterDesk.Http

structure Script where
  yaml : List Reply := []
  others : List Reply := []
  last : Reply := .broken ["no response"]
  deriving Inhabited

namespace Script

def wantsYaml (request : Request) : Bool := request.accept = "application/yaml"

def answer (request : Request) (script : Script) : Reply × Script :=
  if wantsYaml request then
    match script.yaml with
    | [] => (script.last, script)
    | reply :: rest => (reply, { script with yaml := rest })
  else
    match script.others with
    | [] => (script.last, script)
    | reply :: rest => (reply, { script with others := rest })

end Script

end ClusterDesk.Http
