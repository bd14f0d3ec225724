import Mathlib.Data.List.Nodup
import TrafficBoard.Proofs.Addresses
import TrafficBoard.Traffic.Ledger

/-!
# Texts of connections

The text of a connection on an interface tells the connection.  The local port ends at the first
blank behind the interface.  The address may hold colons, blanks and brackets of its own, but what
stands behind it holds one colon less, so that the last colon is the one before the remote port.
-/

namespace TrafficBoard

open Text

namespace Connection

/-- What stands behind the remote address of a connection and its colon. -/
def remoteEnd (connection : Connection) : List Char :=
  (toString connection.port).toList ++ ' ' :: '(' :: (connection.protocol.text.toList ++ [')'])

theorem colon_notMem_remoteEnd (connection : Connection) : ':' ∉ connection.remoteEnd := by
  have port := notMem_toString_int (c := ':') (by decide) (by decide) connection.port
  have protocol : ':' ∉ ' ' :: '(' :: (connection.protocol.text.toList ++ [')']) := by
    cases connection.protocol <;> decide
  rw [remoteEnd, List.mem_append, not_or]
  exact ⟨port, protocol⟩

/-- The remote port ends at the first blank. -/
theorem remoteEnd_inj {connection other : Connection}
    (same : connection.remoteEnd = other.remoteEnd) :
    connection.port = other.port ∧ connection.protocol = other.protocol := by
  have port (value : Int) := notMem_toString_int (c := ' ') (by decide) (by decide) value
  obtain ⟨ports, protocols⟩ := eq_of_first (port _) (port _) same
  constructor
  · exact toString_int_injective (String.toList_injective ports)
  · revert protocols
    cases connection.protocol <;> cases other.protocol <;> decide

theorem toList_display (connection : Connection) (interface : String) :
    (connection.display .empty interface).toList = "<".toList ++ interface.toList ++ ">:".toList ++
      ((toString connection.localPort).toList ++ ' ' :: ("=> ".toList ++
        (connection.address.characters ++ ':' :: connection.remoteEnd))) := by
  have address : connection.address.display .empty = String.ofList connection.address.characters :=
    rfl
  simp only [display, address, remoteEnd, String.toList_append, String.toList_ofList,
    List.append_assoc]
  rfl

theorem display_injective (interface : String) :
    Function.Injective fun connection : Connection => connection.display .empty interface := by
  intro connection other same
  have texts := congrArg String.toList same
  simp only [toList_display, List.append_cancel_left_eq] at texts
  have localPort (value : Int) := notMem_toString_int (c := ' ') (by decide) (by decide) value
  obtain ⟨localPorts, remotes⟩ := eq_of_first (localPort _) (localPort _) texts
  rw [List.append_cancel_left_eq] at remotes
  obtain ⟨addresses, ends⟩ :=
    eq_of_last (colon_notMem_remoteEnd connection) (colon_notMem_remoteEnd other) remotes
  obtain ⟨ports, protocols⟩ := remoteEnd_inj ends
  have localPortsSame := toString_int_injective (String.toList_injective localPorts)
  cases connection
  cases other
  rw [mk.injEq]
  exact ⟨Address.characters_injective addresses, ports, protocols, localPortsSame⟩

/-- Without hostnames, the text of a connection on an interface tells it from every other one.  So
no two connections of a ledger that are on one interface have the same text. -/
theorem texts_tell_connections_apart (interface : String) :
    (∀ connection other : Connection,
      connection.display .empty interface = other.display .empty interface ↔
        connection = other) ∧
    ∀ ledger : Ledger,
      ((ledger.connections.entries.filter fun entry => entry.2.interface = interface).map
        fun entry => entry.1.display .empty entry.2.interface).Nodup := by
  refine ⟨fun connection other => (display_injective interface).eq_iff, fun ledger => ?_⟩
  let listed := ledger.connections.entries.filter fun entry => entry.2.interface = interface
  have texts : listed.map (fun entry => entry.1.display .empty entry.2.interface) =
      (listed.map (·.1)).map fun connection => connection.display .empty interface := by
    rw [List.map_map]
    apply List.map_congr_left
    intro entry member
    have same := of_decide_eq_true (List.mem_filter.1 member).2
    rw [same, Function.comp_apply]
  have distinct : (listed.map (·.1)).Nodup :=
    ledger.connections.distinct.sublist (List.filter_sublist.map _)
  rw [texts]
  exact distinct.map (display_injective interface)

end Connection

end TrafficBoard
