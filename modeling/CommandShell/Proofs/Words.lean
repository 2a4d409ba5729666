/-
This file shows that a command whose segments read words reads its lines word by word. The blanks
between the words, before them and behind them do not matter.
-/

import CommandShell.Proofs.Answer
import Mathlib.Data.List.TakeWhile

namespace CommandShell

open Argument

/-! ### Words -/

namespace Text

/-- The words of a text stand between its blanks. -/
def words (text : List Char) : List String :=
  ((text.splitOnP isBlank).filter (· ≠ [])).map String.ofList

theorem words_nil : words [] = [] := by
  simp [words]

/-- A blank separates the words before it from those behind it. -/
theorem words_append_blank {blank : Char} (separates : isBlank blank) (text rest : List Char) :
    words (text ++ blank :: rest) = words text ++ words rest := by
  simp [words, List.splitOnP_append_cons text rest separates]

theorem words_cons_blank {blank : Char} (separates : isBlank blank) (rest : List Char) :
    words (blank :: rest) = words rest := by
  simpa [words_nil] using words_append_blank separates [] rest

theorem words_of_solid {word : List Char} (solid : ∀ char ∈ word, isSolid char)
    (nonempty : word ≠ []) : words word = [String.ofList word] := by
  have whole : ∀ char ∈ word, isBlank char = false := by simpa [isSolid] using solid
  simp [words, List.splitOnP_eq_singleton whole, nonempty]

theorem words_of_blanks {blanks : List Char} (blank : ∀ char ∈ blanks, isBlank char) :
    words blanks = [] := by
  induction blanks with
  | nil => exact words_nil
  | cons first rest inductionHypothesis =>
      have ⟨separates, behind⟩ := List.forall_mem_cons.mp blank
      rw [words_cons_blank separates, inductionHypothesis behind]

/-- Blanks at the start of a text belong to no word. -/
theorem words_trimStart (text : List Char) : words (trimStart text) = words text := by
  unfold trimStart
  induction text with
  | nil => rfl
  | cons char rest inductionHypothesis =>
      cases blank : isBlank char with
      | false => rw [List.dropWhile_cons_of_neg (by simp [blank])]
      | true => rw [List.dropWhile_cons_of_pos blank, inductionHypothesis, words_cons_blank blank]

/-- Blanks at the end of a text belong to no word. -/
theorem words_append_blanks {blanks : List Char} (blank : ∀ char ∈ blanks, isBlank char)
    (text : List Char) : words (text ++ blanks) = words text := by
  cases blanks with
  | nil => rw [List.append_nil]
  | cons first blanks =>
      have ⟨separates, behind⟩ := List.forall_mem_cons.mp blank
      rw [words_append_blank separates, words_of_blanks behind, List.append_nil]

/-- A text without the blanks at its start is the trimmed text with blanks at its end. -/
theorem exists_trimStart_eq (text : List Char) :
    ∃ blanks, (∀ char ∈ blanks, isBlank char) ∧ trimStart text = trim text ++ blanks := by
  refine ⟨((trimStart text).reverse.takeWhile isBlank).reverse, ?_, ?_⟩
  · intro char member
    exact List.all_eq_true.mp List.all_takeWhile char (List.mem_reverse.mp member)
  · rw [← List.reverse_inj, List.reverse_append, trim, List.reverse_reverse, List.reverse_reverse]
    exact List.takeWhile_append_dropWhile.symm

/-- Of a text of blanks, and of no other, trimming leaves nothing. -/
theorem isEmpty_trim_iff {text : List Char} :
    (trim text).isEmpty ↔ ∀ char ∈ text, isBlank char := by
  rw [List.isEmpty_iff]
  constructor
  · intro nothing char member
    obtain ⟨blanks, blank, whole⟩ := exists_trimStart_eq text
    rw [nothing, List.nil_append] at whole
    rw [← List.takeWhile_append_dropWhile (p := isBlank) (l := text), List.mem_append] at member
    rcases member with before | behind
    · exact List.all_eq_true.mp List.all_takeWhile char before
    · exact blank char (whole ▸ behind)
  · intro blank
    have nothing : trimStart text = [] := List.dropWhile_eq_nil_iff.mpr blank
    rw [trim, nothing]
    rfl

theorem words_trim (text : List Char) : words (trim text) = words text := by
  obtain ⟨blanks, blank, whole⟩ := exists_trimStart_eq text
  rw [← words_trimStart text, whole, words_append_blanks blank]

theorem isBlank_of_mem_splitOnP {text part : List Char} (member : part ∈ text.splitOnP isBlank) :
    ∀ char ∈ part, isBlank char = false := by
  induction text generalizing part with
  | nil =>
      obtain rfl := List.mem_singleton.mp member
      exact fun _ nothing => nomatch nothing
  | cons first rest inductionHypothesis =>
      rw [List.splitOnP_cons_eq_if_modifyHead] at member
      cases blank : isBlank first with
      | true =>
          rw [if_pos blank] at member
          rcases List.mem_cons.mp member with rfl | later
          · exact fun _ nothing => nomatch nothing
          · exact inductionHypothesis later
      | false =>
          rw [if_neg (Bool.eq_false_iff.mp blank)] at member
          cases parts : rest.splitOnP isBlank with
          | nil => simp [parts] at member
          | cons head tail =>
              rw [parts, List.modifyHead_cons] at member
              rcases List.mem_cons.mp member with rfl | later
              · have headSolid := inductionHypothesis (parts ▸ List.mem_cons_self)
                exact List.forall_mem_cons.mpr ⟨blank, headSolid⟩
              · exact inductionHypothesis (parts ▸ List.mem_cons_of_mem _ later)

theorem isWord_of_mem_words {text : List Char} {word : String} (member : word ∈ words text) :
    isWord word.toList := by
  obtain ⟨part, among, rfl⟩ := List.mem_map.mp member
  obtain ⟨isPart, nonempty⟩ := List.mem_filter.mp among
  have solid := isBlank_of_mem_splitOnP isPart
  simpa [isWord, isSolid, List.isEmpty_eq_false_iff] using ⟨of_decide_eq_true nonempty, solid⟩

/-- Words with blanks between them are read back. -/
theorem words_intercalate {list : List String} (areWords : ∀ word ∈ list, isWord word.toList) :
    words (" ".intercalate list).toList = list := by
  induction list with
  | nil => exact words_nil
  | cons first rest inductionHypothesis =>
      obtain ⟨firstWord, restWords⟩ := List.forall_mem_cons.mp areWords
      have alone : words first.toList = [first] := by
        rw [words_of_solid (solid_of_isWord firstWord) (ne_nil_of_isWord firstWord),
          String.ofList_toList]
      cases rest with
      | nil => simpa using alone
      | cons second rest =>
          have blank : isBlank ' ' := by decide
          have split : (" ".intercalate (first :: second :: rest)).toList =
              first.toList ++ ' ' :: (" ".intercalate (second :: rest)).toList := by
            simp
          rw [split, words_append_blank blank, alone, inductionHypothesis restWords,
            List.singleton_append]

theorem head?_trim (text : List Char) : ¬ (trim text).head?.any isBlank := by
  obtain ⟨blanks, _, whole⟩ := exists_trimStart_eq text
  have stops := List.head?_dropWhile_not isBlank text
  rw [← trimStart, whole] at stops
  cases trimmed : trim text with
  | nil => simp
  | cons first rest =>
      rw [trimmed] at stops
      simpa using stops

end Text

open Text

namespace Cursor

theorem words_skipBlanks (cursor : Cursor) :
    words cursor.skipBlanks.remaining = words cursor.remaining := by
  rw [skipBlanks_eq]
  exact words_trimStart cursor.remaining

/-- A word starts at a place before the end that is not blank. -/
theorem word_ne_nil {cursor : Cursor} (more : ¬ cursor.atEnd) (starts : cursor.atBlank = false) :
    cursor.word ≠ [] := by
  intro none
  have boundary := cursor.atBoundary_skipWord
  rw [skipWord, none] at boundary
  rcases (atBoundary_iff _).mp boundary with ended | blank
  · exact more (by simpa [atEnd, remaining_advance] using ended)
  · have same : cursor.advance ([] : List Char).length = cursor := by simp [advance]
    rw [same, starts] at blank
    cases blank

/-- The next word is the first of the words that remain. -/
theorem words_eq_cons {cursor : Cursor} (more : ¬ cursor.atEnd) (starts : cursor.atBlank = false) :
    words cursor.remaining = String.ofList cursor.word :: words cursor.skipWord.remaining := by
  have nonempty := word_ne_nil more starts
  have solid : ∀ char ∈ cursor.word, isSolid char := fun char member => solid_of_mem_word member
  have split : cursor.remaining = cursor.word ++ cursor.skipWord.remaining := by
    rw [skipWord_eq]
    exact List.takeWhile_append_dropWhile.symm
  rw [split]
  rcases (atBoundary_iff _).mp cursor.atBoundary_skipWord with ended | goesOn
  · rw [(atEnd_iff _).mp ended, List.append_nil, words_nil, words_of_solid solid nonempty]
  · obtain ⟨blank, rest, stops, separates⟩ := (atBlank_iff _).mp goesOn
    rw [stops, words_append_blank separates, words_of_solid solid nonempty,
      words_cons_blank separates]
    rfl

end Cursor

/-- Behind a label that is not empty the other words of a line remain. -/
theorem Labelled.words_eq_cons {line label : String} {behind : Cursor}
    (labelled : Labelled line label behind) (nonempty : label ≠ "") :
    words line.toList = label :: words behind.remaining := by
  obtain ⟨rfl, rfl⟩ := Labelled.iff_eq.mp labelled
  have word : (Cursor.ofLine line).word ≠ [] := by
    intro none
    exact nonempty (by rw [none, String.ofList_nil])
  change words (Cursor.ofLine line).remaining = _
  refine Cursor.words_eq_cons ?_ ?_
  · intro ended
    exact word (by rw [Cursor.word, (Cursor.atEnd_iff _).mp ended, List.takeWhile_nil])
  · refine Bool.eq_false_iff.mpr fun blank => word ?_
    obtain ⟨first, rest, starts, separates⟩ := (Cursor.atBlank_iff _).mp blank
    rw [Cursor.word, starts, List.takeWhile_cons_of_neg (not_isSolid_of_isBlank separates)]

/-- A line that starts with no blank starts with its first word. -/
theorem Labelled.of_words {line label : String} {rest : List String}
    (starts : (Cursor.ofLine line).atBlank = false) (told : words line.toList = label :: rest) :
    ∃ behind, Labelled line label behind ∧ words behind.remaining = rest := by
  have more : ¬ (Cursor.ofLine line).atEnd := by
    intro ended
    rw [show line.toList = [] from (Cursor.atEnd_iff _).mp ended, words_nil] at told
    cases told
  obtain ⟨rfl, behind⟩ := List.cons.inj ((Cursor.words_eq_cons more starts).symm.trans told)
  exact ⟨_, Labelled.ofLine line, behind⟩

/-! ### Trees that read words -/

namespace Segment

/-- A segment reads words if no value of it can be a quotation or longer than a word. -/
def ReadsWords : Segment → Prop
  | .literal _ => True
  | .argument _ kind _ => kind ≠ .phrase ∧ kind ≠ .remainder

/-- This is what a segment makes of a word, if it takes it. -/
def take? (word : String) : Segment → Option (Option (String × Value))
  | .literal text => if word = text then some none else none
  | .argument name kind _ =>
      match kind.ofWord word.toList with
      | .ok value => some (some (name, value))
      | .error _ => none

theorem take?_word (word name : String) (provider : Option Provider) :
    (argument name .word provider).take? word = some (some (name, .text word)) := by
  simp [take?, Kind.ofWord]

theorem take?_boolean (word name : String) (provider : Option Provider) :
    (argument name .boolean provider).take? word =
      (readBoolean word.toList).toOption.map fun value => some (name, .boolean value) := by
  rw [take?, Kind.ofWord]
  cases readBoolean word.toList <;> rfl

theorem ReadsWords.reads_iff {segment : Segment} (readsWords : segment.ReadsWords)
    {cursor after : Cursor} {binding : Option (String × Value)} :
    segment.Reads cursor binding after ↔
      segment.take? (String.ofList cursor.word) = some binding ∧ after = cursor.skipWord := by
  cases segment with
  | literal text =>
      have same : String.ofList cursor.word = text ↔ cursor.word = text.toList := by
        rw [← String.toList_inj, String.toList_ofList]
      constructor
      · rintro ⟨word⟩
        exact ⟨if_pos (same.mpr word), rfl⟩
      · rintro ⟨taken, rfl⟩
        by_cases word : String.ofList cursor.word = text
        · rw [take?, if_pos word] at taken
          cases taken
          exact .literal (same.mp word)
        · rw [take?, if_neg word] at taken
          cases taken
  | argument name kind provider =>
      have read := Kind.read_eq_readWord readsWords.1 readsWords.2 cursor
      rw [take?, String.toList_ofList]
      constructor
      · rintro ⟨⟩
        rename_i value decoded
        rw [Kind.decode_eq_ok_iff, read, Kind.readWord] at decoded
        cases value? : kind.ofWord cursor.word with
        | error fault => simp [value?] at decoded
        | ok word =>
            simp only [value?, Prod.mk.injEq, Except.ok.injEq] at decoded
            exact ⟨by rw [decoded.1], decoded.2.symm⟩
      · rintro ⟨taken, rfl⟩
        cases value? : kind.ofWord cursor.word with
        | error fault => simp [value?] at taken
        | ok word =>
            simp only [value?, Option.some.injEq] at taken
            subst taken
            refine .argument ?_
            rw [Kind.decode_eq_ok_iff, read, Kind.readWord, value?]

end Segment

namespace Node

variable {ω : Type} {sender : Sender} {node child : Node ω} {cursor : Cursor} {route : Route ω}

/-- This is the first visible child that takes a word, with what it makes of the word. -/
def firstTaking? (sender : Sender) (word : String) (children : List (Node ω)) :
    Option (Node ω × Option (String × Value)) :=
  (children.filter (visibleTo sender)).findSome? fun child =>
    (child.segment.take? word).map (child, ·)

/-- The words lead to the last executor on their way and to the arguments, if they lead anywhere. -/
def callOf? (sender : Sender) : List String → Node ω → Option (Option (Executor ω) × Arguments)
  | [], node => some (node.executor, [])
  | word :: rest, node =>
      match firstTaking? sender word node.children with
      | none => none
      | some (child, binding) =>
          (child.callOf? sender rest).map fun call =>
            (call.1.or node.executor, binding.toList ++ call.2)

section Taking

variable {word : String} {executor : Option (Executor ω)} {children rest : List (Node ω)}

@[simp]
theorem firstTaking?_nil : firstTaking? sender word ([] : List (Node ω)) = none := rfl

/-- A child that everyone sees takes the word, or leaves it to the others. -/
theorem firstTaking?_cons {segment : Segment} :
    firstTaking? sender word (.node segment executor none children :: rest) =
      ((segment.take? word).map (Node.node segment executor none children, ·)).or
        (firstTaking? sender word rest) := by
  rw [firstTaking?, List.filter_cons_of_pos rfl, List.findSome?_cons]
  cases taken : segment.take? word <;> simp [Node.segment, taken, firstTaking?]

theorem callOf?_nil (node : Node ω) : node.callOf? sender [] = some (node.executor, []) := rfl

/-- No word leads on from a node without children. -/
theorem callOf?_leaf {segment : Segment} {requirement : Option (Sender → Bool)}
    (words : List String) :
    (Node.node segment executor requirement []).callOf? sender (word :: words) = none := rfl

/-- An only child takes the next word, or the words lead nowhere. -/
theorem callOf?_onlyChild {segment inner : Segment} {own : Option (Executor ω)}
    {requirement : Option (Sender → Bool)} (words : List String) :
    (Node.node segment own requirement [.node inner executor none children]).callOf? sender
        (word :: words) =
      (inner.take? word).bind fun binding =>
        ((Node.node inner executor none children).callOf? sender words).map fun call =>
          (call.1.or own, binding.toList ++ call.2) := by
  rw [Node.callOf?, Node.children, Node.firstTaking?_cons, Node.firstTaking?_nil, Option.or_none]
  cases inner.take? word <;> rfl

end Taking

theorem takes_iff_take? (readsWords : child.segment.ReadsWords)
    {binding : Option (String × Value)} {after : Cursor} :
    child.Takes sender Cursor.atBoundary cursor binding after ↔
      child.visibleTo sender ∧ child.segment.take? (String.ofList cursor.word) = some binding ∧
        after = cursor.skipWord := by
  constructor
  · rintro ⟨visible, reads, _⟩
    exact ⟨visible, readsWords.reads_iff.mp reads⟩
  · rintro ⟨visible, reads⟩
    exact ⟨visible, readsWords.reads_iff.mpr reads, reads.2 ▸ cursor.atBoundary_skipWord⟩

/-- Children that refuse the next word do not take it. -/
theorem firstTaking?_of_refuses {children : List (Node ω)}
    (readsWords : ∀ child ∈ children, child.segment.ReadsWords)
    (refused : ∀ child ∈ children, child.Refuses sender Cursor.atBoundary cursor) :
    firstTaking? sender (String.ofList cursor.word) children = none := by
  rw [firstTaking?, List.findSome?_eq_none_iff]
  intro child among
  obtain ⟨member, visible⟩ := List.mem_filter.mp among
  cases taken : child.segment.take? (String.ofList cursor.word) with
  | none => rfl
  | some binding =>
      exact absurd ((takes_iff_take? (readsWords child member)).mpr ⟨visible, taken, rfl⟩)
        (refused child member _ _)

theorem firstTaking?_append_cons {word : String} {earlier : List (Node ω)} (later : List (Node ω))
    {binding : Option (String × Value)} (before : firstTaking? sender word earlier = none)
    (visible : child.visibleTo sender) (takes : child.segment.take? word = some binding) :
    firstTaking? sender word (earlier ++ child :: later) = some (child, binding) := by
  unfold firstTaking? at before ⊢
  rw [List.filter_append, List.findSome?_append, before, Option.none_or,
    List.filter_cons_of_pos visible, List.findSome?_cons, takes]
  rfl

/-- The route of a line through a tree that reads words is the way of its words. -/
theorem Follows.callOf?_eq (follows : node.Follows sender Cursor.atBoundary cursor route)
    (readsWords : node.Throughout fun node => ∀ child ∈ node.children, child.segment.ReadsWords) :
    node.callOf? sender (words cursor.remaining) =
      match route.ending with
      | .stuck _ => none
      | .exhausted => some (route.executor?.or node.executor, route.arguments) := by
  induction follows with
  | exhausted ended =>
      rw [← Cursor.words_skipBlanks, (Cursor.atEnd_iff _).mp ended, words_nil]
      rfl
  | @stuck node cursor more refused =>
      rw [← Cursor.words_skipBlanks, Cursor.words_eq_cons more cursor.atBlank_skipBlanks, callOf?,
        firstTaking?_of_refuses readsWords.own refused]
  | @step node child earlier later cursor after binding route more children refused taken _
      inductionHypothesis =>
      have own := readsWords.own
      have member := mem_of_split children
      obtain ⟨visible, takes, rfl⟩ := (takes_iff_take? (own child member)).mp taken
      have before := firstTaking?_of_refuses
        (fun other among => own other (children ▸ List.mem_append_left _ among)) refused
      have first := firstTaking?_append_cons later before visible takes
      rw [← Cursor.words_skipBlanks, Cursor.words_eq_cons more cursor.atBlank_skipBlanks, callOf?,
        children, first]
      simp only [inductionHypothesis (readsWords.of_mem_children member), Route.ending_cons]
      cases route.ending with
      | stuck cause => rfl
      | exhausted => simp [Option.or_assoc]

end Node

namespace Command

variable {ω : Type} {command : Command ω} {sender : Sender} {line label : String}
  {behind : Cursor} {call : Call ω}

/-- A line that resolves is taken on by the command, and its words lead to the call. -/
theorem resolve_eq_ok_iff_words (labelled : Labelled line label behind)
    (readsWords : command.root.Throughout fun node =>
      ∀ child ∈ node.children, child.segment.ReadsWords) :
    command.resolve sender line = .ok call ↔
      command.Admits sender line label behind ∧ ∃ executor arguments,
        command.root.callOf? sender (words behind.remaining) = some (some executor, arguments) ∧
          call = ⟨executor, ⟨sender, line, label, arguments, command.heading⟩⟩ := by
  by_cases known : label ∈ command.labels
  · by_cases rejected : command.Rejects sender
    · have unusable : ¬ command.Admits sender line label behind := fun admits =>
        admits.usable rejected
      simp [resolve_of_rejects labelled known rejected, unusable]
    · have admits : command.Admits sender line label behind := ⟨labelled, known, rejected⟩
      obtain ⟨route, follows⟩ :=
        Node.exists_follows sender Cursor.atBoundary command.root behind
      rw [resolve_of_admits admits follows, follows.callOf?_eq readsWords]
      cases route.ending with
      | stuck cause => simp
      | exhausted =>
          cases route.executor?.or command.root.executor with
          | none => simp
          | some executor =>
              constructor
              · rintro ⟨⟩
                exact ⟨admits, executor, route.arguments, rfl, rfl⟩
              · rintro ⟨_, _, _, same, rfl⟩
                cases same
                rfl
  · have unknown : ¬ command.Admits sender line label behind := fun admits => known admits.known
    simp [resolve_of_unknown labelled known, unknown]

/-- A line that is taken on and whose words lead nowhere has an argument that is unknown. -/
theorem exists_resolve_eq_unknownArgument (admits : command.Admits sender line label behind)
    (readsWords : command.root.Throughout fun node =>
      ∀ child ∈ node.children, child.segment.ReadsWords)
    (nowhere : command.root.callOf? sender (words behind.remaining) = none) :
    ∃ position cause,
      command.resolve sender line = .error (.unknownArgument position line cause) := by
  obtain ⟨route, follows⟩ := Node.exists_follows sender Cursor.atBoundary command.root behind
  rw [follows.callOf?_eq readsWords] at nowhere
  rw [resolve_of_admits admits follows]
  cases ending : route.ending with
  | stuck cause => exact ⟨_, cause, rfl⟩
  | exhausted => simp [ending] at nowhere

end Command

end CommandShell
