import Roster.Actor.Client

namespace Roster

def Client.byHand (reply : Request ι κ υ → Option (Reply ι α)) :
    Client (List (Request ι κ υ)) ι κ υ (Failure ε) α where
  create params received :=
    (match reply (.create params) with
      | some (.created id) => .ok id
      | _ => .error .dropped, received ++ [.create params])
  get id received :=
    (match reply (.get id) with
      | some (.found entity) => .ok entity
      | _ => .error .dropped, received ++ [.get id])
  update id change received :=
    (match reply (.update id change) with
      | some (.updated entity) => .ok entity
      | _ => .error .dropped, received ++ [.update id change])
  delete id received :=
    (match reply (.delete id) with
      | some .deleted => .ok ()
      | _ => .error .dropped, received ++ [.delete id])

end Roster
