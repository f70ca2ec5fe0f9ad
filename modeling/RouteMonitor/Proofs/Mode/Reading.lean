import RouteMonitor.Mode
import RouteMonitor.Proofs.Bytes.Words
import RouteMonitor.Proofs.Mode

/-!
# How a mode is read

A mode is chosen by the first word of a text alone. The word has to be a name of a mode, in the same
case and in full: the names are in lower case and none starts another, so a name with a letter in
upper case, a name cut short and a name with more bytes behind it are no names. A text that chooses
nothing is refused with a message that quotes its first word. `SelectsByFirstWord` states this for
any choice of names, and it follows from what the names have in common.
-/

namespace RouteMonitor

open Bytes

variable {Mode : Type} {read : Bytes → Except Bytes Mode} {name : Mode → Bytes}
  {opening closing text word : Bytes}

/-- What it is to choose a mode by the first word of a text, and to quote the word, between an
opening and a closing text, where it chooses none. -/
structure SelectsByFirstWord (read : Bytes → Except Bytes Mode) (name : Mode → Bytes)
    (opening closing : Bytes) : Prop where
  accepts : ∀ text mode, read text = .ok mode ↔
    ∃ before after, text = before ++ name mode ++ after ∧ before.IsBlank ∧
      (after = [] ∨ ∃ b rest, after = b :: rest ∧ b.isBlank = true)
  refuses : ∀ text cause, read text = .error cause ↔
    ∃ word, text.IsFirstWord word ∧ (∀ mode, word ≠ name mode) ∧
      cause = opening ++ word ++ closing
  refusesOtherCase : ∀ text word mode, text.IsFirstWord word →
    word.toLower = (name mode).toLower → word ≠ name mode → ∃ cause, read text = .error cause
  refusesLonger : ∀ before mode b after, IsBlank before → b.isBlank = false →
    ∃ cause, read (before ++ name mode ++ b :: after) = .error cause
  refusesShorter : ∀ text word mode, text.IsFirstWord word → word <+: name mode →
    word ≠ name mode → ∃ cause, read text = .error cause
  ignoresRest : ∀ text other word, text.IsFirstWord word → other.IsFirstWord word →
    read text = read other

/-- What the names of the modes of one kind have in common. -/
structure AreKeywords (name : Mode → Bytes) : Prop where
  nonempty : ∀ mode, name mode ≠ []
  unspaced : ∀ mode, (name mode).IsUnspaced
  lowerCase : ∀ mode, (name mode).toLower = name mode
  prefixFree : ∀ mode other, name mode <+: name other → mode = other

/-! ### Names among words -/

/-- The search in a list of all modes finds the one mode of the name. -/
theorem AreKeywords.find?_eq_some_iff (hnames : AreKeywords name) {modes : List Mode}
    (hmodes : ∀ mode, mode ∈ modes) {mode : Mode} :
    (modes.find? fun mode => name mode = word) = some mode ↔ name mode = word := by
  constructor
  · intro hfound
    simpa using List.find?_some hfound
  · intro hmode
    cases hfound : modes.find? fun mode => name mode = word with
    | none => exact absurd hmode (by simpa using List.find?_eq_none.1 hfound mode (hmodes mode))
    | some other =>
      have hother : name other = word := by simpa using List.find?_some hfound
      rw [hnames.prefixFree other mode (hother.trans hmode.symm ▸ List.prefix_rfl)]

/-- The name with blanks before it, and with nothing or a blank behind it. -/
theorem AreKeywords.firstWord_eq_name_iff (hnames : AreKeywords name) {mode : Mode} :
    name mode = text.firstWord ↔
      ∃ before after, text = before ++ name mode ++ after ∧ before.IsBlank ∧
        (after = [] ∨ ∃ b rest, after = b :: rest ∧ b.isBlank = true) := by
  rw [eq_comm, ← isFirstWord_iff]
  constructor
  · intro hword
    obtain ⟨before, after, hword⟩ := hword
    refine ⟨before, after, hword.text_eq, hword.blank, ?_⟩
    cases after with
    | nil => exact .inl rfl
    | cons b rest => exact .inr ⟨b, rest, rfl, hword.stop b rfl⟩
  · intro hparts
    obtain ⟨before, after, htext, hblank, hafter⟩ := hparts
    refine ⟨before, after, htext, hblank, hnames.unspaced mode, fun b hb => ?_,
      fun hempty => absurd hempty (hnames.nonempty mode)⟩
    rcases hafter with rfl | ⟨c, rest, rfl, hc⟩
    · cases hb
    · obtain rfl := Option.some.inj hb
      exact hc

theorem AreKeywords.ne_of_toLower (hnames : AreKeywords name) {mode : Mode}
    (hlower : word.toLower = (name mode).toLower) (hword : word ≠ name mode) (other : Mode) :
    name other ≠ word := by
  rintro rfl
  rw [hnames.lowerCase, hnames.lowerCase] at hlower
  exact hword hlower

theorem AreKeywords.ne_of_append (hnames : AreKeywords name) (mode : Mode) (b : Byte)
    (rest : Bytes) (other : Mode) : name other ≠ name mode ++ b :: rest := by
  intro hother
  obtain rfl := hnames.prefixFree mode other ⟨b :: rest, hother.symm⟩
  simp at hother

theorem AreKeywords.ne_of_isPrefix (hnames : AreKeywords name) {mode : Mode}
    (hshort : word <+: name mode) (hword : word ≠ name mode) (other : Mode) :
    name other ≠ word := by
  rintro rfl
  exact hword (congrArg name (hnames.prefixFree other mode hshort))

/-! ### Reading -/

/-- A reader that searches a list of all modes for the name that is the first word. -/
def LooksUpFirstWord (read : Bytes → Except Bytes Mode) (name : Mode → Bytes)
    (opening closing : Bytes) : Prop :=
  ∃ modes : List Mode, (∀ mode, mode ∈ modes) ∧
    ∀ text, read text = (modes.find? fun mode => name mode = text.firstWord).elim
      (.error (opening ++ text.firstWord ++ closing)) .ok

theorem LooksUpFirstWord.congr (hreads : LooksUpFirstWord read name opening closing)
    {other : Bytes} (hword : text.firstWord = other.firstWord) : read text = read other := by
  obtain ⟨modes, -, hread⟩ := hreads
  rw [hread, hread, hword]

theorem LooksUpFirstWord.eq_ok_iff (hreads : LooksUpFirstWord read name opening closing)
    (hnames : AreKeywords name) {mode : Mode} :
    read text = .ok mode ↔ name mode = text.firstWord := by
  obtain ⟨modes, hmodes, hread⟩ := hreads
  rw [← hnames.find?_eq_some_iff hmodes, hread]
  cases modes.find? fun mode => name mode = text.firstWord <;> simp

theorem LooksUpFirstWord.eq_error_iff (hreads : LooksUpFirstWord read name opening closing)
    {cause : Bytes} : read text = .error cause ↔
      (∀ mode, name mode ≠ text.firstWord) ∧ cause = opening ++ text.firstWord ++ closing := by
  obtain ⟨modes, hmodes, hread⟩ := hreads
  have hnone : (modes.find? fun mode => name mode = text.firstWord) = none ↔
      ∀ mode, name mode ≠ text.firstWord := by
    simp [List.find?_eq_none, hmodes]
  rw [← hnone, hread]
  cases modes.find? fun mode => name mode = text.firstWord <;> simp [eq_comm]

/-- A reader that looks up the first word among keywords selects by it. -/
theorem LooksUpFirstWord.selectsByFirstWord (hreads : LooksUpFirstWord read name opening closing)
    (hnames : AreKeywords name) : SelectsByFirstWord read name opening closing := by
  have hrefused : ∀ text word, text.firstWord = word → (∀ mode, name mode ≠ word) →
      ∃ cause, read text = .error cause := by
    rintro text word rfl hword
    exact ⟨_, hreads.eq_error_iff.2 ⟨hword, rfl⟩⟩
  refine ⟨fun text mode => (hreads.eq_ok_iff hnames).trans hnames.firstWord_eq_name_iff,
    fun text cause => ?_, fun text word mode hfirst hlower hword => ?_,
    fun before mode b after hbefore hb => ?_, fun text word mode hfirst hshort hword => ?_,
    fun text other word htext hother => ?_⟩
  · simp only [hreads.eq_error_iff, isFirstWord_iff, exists_eq_left', ne_comm]
  · exact hrefused text word (isFirstWord_iff.1 hfirst) (hnames.ne_of_toLower hlower hword)
  · exact hrefused _ _ (firstWord_append_cons hbefore (hnames.unspaced mode) hb after)
      (hnames.ne_of_append mode b _)
  · exact hrefused text word (isFirstWord_iff.1 hfirst) (hnames.ne_of_isPrefix hshort hword)
  · exact hreads.congr ((isFirstWord_iff.1 htext).trans (isFirstWord_iff.1 hother).symm)

/-! ### The two kinds of modes -/

theorem PeerMode.areKeywords_name : AreKeywords PeerMode.name where
  nonempty mode := by cases mode <;> decide
  unspaced := PeerMode.isUnspaced_name
  lowerCase mode := by cases mode <;> decide
  prefixFree mode other := by cases mode <;> cases other <;> decide

theorem HistoryMode.areKeywords_name : AreKeywords HistoryMode.name where
  nonempty mode := by cases mode <;> decide
  unspaced := HistoryMode.isUnspaced_name
  lowerCase mode := by cases mode <;> decide
  prefixFree mode other := by cases mode <;> cases other <;> decide

theorem append_quoted_append (opening word closing : Bytes) :
    opening ++ quoted word ++ closing = opening ++ utf8 "'" ++ word ++ (utf8 "'" ++ closing) := by
  simp only [quoted, List.append_assoc]

theorem PeerMode.unknownMessage_eq (word : Bytes) :
    PeerMode.unknownMessage word =
      utf8 "invalid mode '" ++ word ++ utf8 "' (bgpactive|bgppassive|bmpactive|bmppassive)" := by
  have hopening : utf8 "invalid mode " ++ utf8 "'" = utf8 "invalid mode '" := by decide
  have hclosing : utf8 "'" ++ utf8 " (bgpactive|bgppassive|bmpactive|bmppassive)" =
      utf8 "' (bgpactive|bgppassive|bmpactive|bmppassive)" := by decide
  rw [unknownMessage, append_quoted_append, hopening, hclosing]

theorem HistoryMode.unknownMessage_eq (word : Bytes) :
    HistoryMode.unknownMessage word =
      utf8 "invalid history mode '" ++ word ++ utf8 "' (every|differ)" := by
  have hopening : utf8 "invalid history mode " ++ utf8 "'" = utf8 "invalid history mode '" := by
    decide
  have hclosing : utf8 "'" ++ utf8 " (every|differ)" = utf8 "' (every|differ)" := by decide
  rw [unknownMessage, append_quoted_append, hopening, hclosing]

theorem PeerMode.looksUpFirstWord_read :
    LooksUpFirstWord PeerMode.read PeerMode.name (utf8 "invalid mode '")
      (utf8 "' (bgpactive|bgppassive|bmpactive|bmppassive)") := by
  refine ⟨all, fun mode => by cases mode <;> decide, fun text => ?_⟩
  rw [PeerMode.read, ofName?, unknownMessage_eq]
  cases all.find? fun mode => mode.name = text.firstWord <;> rfl

theorem HistoryMode.looksUpFirstWord_read :
    LooksUpFirstWord HistoryMode.read HistoryMode.name (utf8 "invalid history mode '")
      (utf8 "' (every|differ)") := by
  refine ⟨all, fun mode => by cases mode <;> decide, fun text => ?_⟩
  rw [HistoryMode.read, ofName?, unknownMessage_eq]
  cases all.find? fun mode => mode.name = text.firstWord <;> rfl

/-- Both kinds of modes are chosen by the first word of a text, which a refusal quotes. -/
theorem modes_are_chosen_by_the_first_word :
    SelectsByFirstWord PeerMode.read PeerMode.name (utf8 "invalid mode '")
        (utf8 "' (bgpactive|bgppassive|bmpactive|bmppassive)") ∧
      SelectsByFirstWord HistoryMode.read HistoryMode.name (utf8 "invalid history mode '")
        (utf8 "' (every|differ)") :=
  ⟨PeerMode.looksUpFirstWord_read.selectsByFirstWord PeerMode.areKeywords_name,
    HistoryMode.looksUpFirstWord_read.selectsByFirstWord HistoryMode.areKeywords_name⟩

theorem only_the_whole_first_word_counts :
    PeerMode.read (utf8 "\t bgpactive tcp") = .ok .bgpActive ∧
      PeerMode.read (utf8 "bgpactive") = PeerMode.read (utf8 "\t bgpactive tcp") ∧
      (∃ cause, PeerMode.read (utf8 " BGPactive") = .error cause) ∧
      (∃ cause, PeerMode.read (utf8 " bgpactive2 tcp") = .error cause) ∧
      (∃ cause, PeerMode.read (utf8 "bgp active") = .error cause) ∧
      HistoryMode.read (utf8 " eve ry") =
        .error (utf8 "invalid history mode 'eve' (every|differ)") := by
  obtain ⟨hpeer, hhistory⟩ := modes_are_chosen_by_the_first_word
  have hword : IsFirstWord (utf8 "\t bgpactive tcp") (utf8 "bgpactive") :=
    isFirstWord_iff.2 (by decide)
  have haccepted : PeerMode.read (utf8 "\t bgpactive tcp") = .ok .bgpActive :=
    (hpeer.accepts _ _).2 ⟨utf8 "\t ", utf8 " tcp", by decide, by decide,
      .inr ⟨byte ' ', utf8 "tcp", by decide, by decide⟩⟩
  refine ⟨haccepted, hpeer.ignoresRest _ _ _ (isFirstWord_iff.2 (by decide)) hword, ?_, ?_, ?_, ?_⟩
  · exact hpeer.refusesOtherCase _ (utf8 "BGPactive") .bgpActive (isFirstWord_iff.2 (by decide))
      (by decide) (by decide)
  · exact hpeer.refusesLonger (utf8 " ") .bgpActive (byte '2') (utf8 " tcp") (by decide) (by decide)
  · exact hpeer.refusesShorter _ (utf8 "bgp") .bgpActive (isFirstWord_iff.2 (by decide))
      (by decide) (by decide)
  · exact (hhistory.refuses _ _).2 ⟨utf8 "eve", isFirstWord_iff.2 (by decide),
      fun mode => by cases mode <;> decide, by decide⟩

end RouteMonitor
