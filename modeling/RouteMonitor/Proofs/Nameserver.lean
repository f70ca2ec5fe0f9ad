import RouteMonitor.Nameserver
import RouteMonitor.Proofs.Address.RoundTrip

/-!
# Lists of name servers and their texts

A list of name servers that is not empty is read back from its text, and no entry is dropped: no
written address holds a comma or a blank.
-/

namespace RouteMonitor.Nameserver

theorem readEntries_render (addresses : List SocketAddress) :
    readEntries (addresses.map SocketAddress.render) = pure addresses := by
  induction addresses with
  | nil => rfl
  | cons address addresses ih =>
    have hread : read? address.render = some address := by
      rw [read?, SocketAddress.read?_render]
    rw [List.map_cons, readEntries, hread]
    dsimp only
    rw [ih, pure_bind]

theorem splitOn_renderList {addresses : List SocketAddress} (hne : addresses ≠ []) :
    (renderList addresses).splitOn (byte ',') = addresses.map SocketAddress.render := by
  have hcomma : ∀ piece ∈ addresses.map SocketAddress.render, byte ',' ∉ piece := by
    intro piece hpiece hmem
    obtain ⟨address, -, rfl⟩ := List.mem_map.1 hpiece
    exact absurd (SocketAddress.isLiteral_of_mem_render hmem) (by decide)
  exact List.splitOn_intercalate (byte ',') hcomma (by simpa using hne)

theorem readList_renderList {addresses : List SocketAddress} (hne : addresses ≠ []) :
    readList (renderList addresses) = pure addresses := by
  have htrim : (addresses.map SocketAddress.render).map Bytes.trim =
      addresses.map SocketAddress.render := by
    rw [List.map_map]
    exact List.map_congr_left fun address _ => address.isUnspaced_render.trim_eq_self
  rw [readList, splitOn_renderList hne, htrim, readEntries_render, pure_bind, if_neg hne]

theorem isUnspaced_renderList (addresses : List SocketAddress) :
    (renderList addresses).IsUnspaced := by
  intro b hb
  rcases Bytes.eq_or_mem_of_mem_intercalate hb with rfl | ⟨piece, hpiece, hmem⟩
  · decide
  · obtain ⟨address, -, rfl⟩ := List.mem_map.1 hpiece
    exact address.isUnspaced_render b hmem

end RouteMonitor.Nameserver
