import RouteMonitor.Mode
import RouteMonitor.Proofs.Bytes

/-!
# Modes and their names

Each mode is read back from its name, which is one word.
-/

namespace RouteMonitor

theorem PeerMode.read_name (mode : PeerMode) : read mode.name = .ok mode := by
  cases mode <;> decide

theorem PeerMode.isUnspaced_name (mode : PeerMode) : mode.name.IsUnspaced := by
  cases mode <;> decide

theorem HistoryMode.read_name (mode : HistoryMode) : read mode.name = .ok mode := by
  cases mode <;> decide

theorem HistoryMode.isUnspaced_name (mode : HistoryMode) : mode.name.IsUnspaced := by
  cases mode <;> decide

end RouteMonitor
