import RouteMonitor.Bytes

/-!
# Modes

Two settings choose from a few names: the peer mode, which fixes the protocol of the session and the
side that opens it, and the history mode, which fixes what the history keeps. Both read the first
word of their text, match it exactly and ignore what follows.
-/

namespace RouteMonitor

inductive PeerMode
  | bgpActive
  | bgpPassive
  | bmpPassive
  | bmpActive
deriving DecidableEq, Repr

namespace PeerMode

def all : List PeerMode := [.bgpActive, .bgpPassive, .bmpPassive, .bmpActive]

def name : PeerMode → Bytes
  | .bgpActive => utf8 "bgpactive"
  | .bgpPassive => utf8 "bgppassive"
  | .bmpPassive => utf8 "bmppassive"
  | .bmpActive => utf8 "bmpactive"

def ofName? (name : Bytes) : Option PeerMode := all.find? fun mode => mode.name = name

def unknownMessage (word : Bytes) : Bytes :=
  utf8 "invalid mode " ++ quoted word ++ utf8 " (bgpactive|bgppassive|bmpactive|bmppassive)"

def read (text : Bytes) : Except Bytes PeerMode :=
  match ofName? text.firstWord with
  | some mode => .ok mode
  | none => .error (unknownMessage text.firstWord)

end PeerMode

/-- Whether the history keeps every update or only those that differ from the last. -/
inductive HistoryMode
  | every
  | differ
deriving DecidableEq, Repr

namespace HistoryMode

def all : List HistoryMode := [.every, .differ]

def name : HistoryMode → Bytes
  | .every => utf8 "every"
  | .differ => utf8 "differ"

def ofName? (name : Bytes) : Option HistoryMode := all.find? fun mode => mode.name = name

def unknownMessage (word : Bytes) : Bytes :=
  utf8 "invalid history mode " ++ quoted word ++ utf8 " (every|differ)"

def read (text : Bytes) : Except Bytes HistoryMode :=
  match ofName? text.firstWord with
  | some mode => .ok mode
  | none => .error (unknownMessage text.firstWord)

end HistoryMode

end RouteMonitor
