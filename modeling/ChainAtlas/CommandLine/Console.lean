import ChainAtlas.Text.Columns
import ChainAtlas.Text.Emoji

/-!
# The console

What a run prints goes to a console that reads markup: a tag between brackets changes the style of
what follows, and a backslash in front of a bracket takes away its meaning.  A message may hold any
text, so every bracket in it that could open a tag is protected before the message is printed, and the
message comes out with its tags as they are.  A bracket that opens no tag needs no protection and gets
none; a backslash that the message has in front of such a bracket is taken for one and disappears.

The console also puts emoji for their codes, where a code never reaches from a tag into the text beside
it, drops the characters that a terminal would act on, and moves to the next column that is divisible
by eight where a text has a tab.

The console is as wide as it needs to be: it folds no line.
-/

namespace ChainAtlas
namespace CommandLine
namespace Console

/-! ## Tags and protected brackets -/

/-- Whether a character may stand at the start of a tag. -/
def startsTag (c : Char) : Bool := ('a' ≤ c ∧ c ≤ 'z') || c == '#' || c == '/' || c == '@'

/-- Whether a bracket opens a tag, by what follows it. -/
def opensTag (rest : List Char) : Bool :=
  rest.head?.any startsTag &&
    (rest.dropWhile fun c => c != '[' && c != ']').head? == some ']'

/-- The pieces of a message, in order: its tags, and what stands between them.  The message may start
inside of a tag. -/
def pieces (inTag : Bool) : List Char → List (List Char)
  | [] => [[]]
  | c :: rest =>
    if c == '[' && opensTag rest then [] :: (pieces true rest).modifyHead (c :: ·)
    else if inTag && c == ']' then [c] :: pieces false rest
    else (pieces inTag rest).modifyHead (c :: ·)

/-- A piece without the backslashes that are taken for a protection. -/
def releaseBrackets : List Char → List Char
  | '\\' :: '[' :: rest => '[' :: releaseBrackets rest
  | c :: rest => c :: releaseBrackets rest
  | [] => []

/-- A message that ends in a single backslash gets a second one, since the console would take the
single one for a protection of whatever is printed next. -/
def doubleLastBackslash (message : List Char) : List Char :=
  match message.reverse with
  | '\\' :: '\\' :: _ => message
  | '\\' :: _ => message ++ ['\\']
  | _ => message

/-- A message as its markup is read. -/
def readMarkup (message : List Char) : List Char :=
  (pieces false (doubleLastBackslash message)).flatMap fun piece =>
    Text.Emoji.replaceCodes (releaseBrackets piece)

/-! ## Columns -/

/-- Whether a terminal would act on a character: the bell, the backspace, vertical tabs, form feeds and
carriage returns. -/
def isTerminalControl (c : Char) : Bool := [0x07, 0x08, 0x0b, 0x0c, 0x0d].contains c.toNat

/-- The distance between tab stops. -/
def tabWidth : Nat := 8

/-- The blanks for a tab after a text that starts in some column: one, and as many more as lead to a
tab stop from there. -/
def blanksAfter (column : Nat) (text : List Char) : List Char :=
  let filled := column + Text.Columns.measure (text ++ [' '])
  List.replicate (1 + (tabWidth - filled % tabWidth) % tabWidth) ' '

/-- The parts of a line between its tabs, put together with blanks for the tabs. -/
def joinAtTabs (column : Nat) : List (List Char) → List Char
  | [] => []
  | [part] => part
  | part :: next :: rest => part ++ blanksAfter column part ++ joinAtTabs 0 (next :: rest)

/-- A line that starts in some column, with blanks for its tabs. -/
def expandLine (column : Nat) (line : List Char) : List Char :=
  joinAtTabs column (line.splitOn '\t')

/-- A text whose first line starts in some column, with blanks for its tabs. -/
def expandTabs (column : Nat) (text : List Char) : List Char :=
  match text.splitOn '\n' with
  | [] => []
  | line :: lines => ['\n'].intercalate (expandLine column line :: lines.map (expandLine 0))

/-! ## Messages -/

/-- What a message looks like when it is printed from some column on. -/
def shown (column : Nat) (message : String) : String :=
  String.ofList <| expandTabs column <|
    (readMarkup message.toList).filter fun c => !isTerminalControl c

/-- What stands in front of every message about a failure. -/
def errorLabel : String := "Error: "

/-- The line that reports a failure. -/
def errorLine (message : String) : String := errorLabel ++ shown errorLabel.length message

/-! ## Messages that are printed as they are -/

theorem flatten_modifyHead_cons {pieces : List (List Char)} (h : pieces ≠ []) (c : Char) :
    (pieces.modifyHead (c :: ·)).flatten = c :: pieces.flatten := by
  cases pieces with
  | nil => exact absurd rfl h
  | cons piece rest => rfl

theorem pieces_ne_nil (inTag : Bool) (message : List Char) : pieces inTag message ≠ [] := by
  fun_induction pieces inTag message with
  | case1 => simp
  | case2 => simp
  | case3 => simp
  | case4 inTag c rest _ _ ih => simpa using ih

/-- No character of a message is lost between its pieces. -/
theorem flatten_pieces (inTag : Bool) (message : List Char) :
    (pieces inTag message).flatten = message := by
  fun_induction pieces inTag message with
  | case1 => rfl
  | case2 inTag c rest _ ih =>
    rw [List.flatten_cons, flatten_modifyHead_cons (pieces_ne_nil _ _), ih, List.nil_append]
  | case3 inTag c rest _ _ ih => rw [List.flatten_cons, ih, List.singleton_append]
  | case4 inTag c rest _ _ ih => rw [flatten_modifyHead_cons (pieces_ne_nil _ _), ih]

/-- A piece without backslashes has all of its brackets released. -/
theorem releaseBrackets_of_not_mem {piece : List Char} (h : '\\' ∉ piece) :
    releaseBrackets piece = piece := by
  fun_induction releaseBrackets piece with
  | case1 rest ih => simp at h
  | case2 c rest _ ih => simp only [List.mem_cons, not_or] at h; rw [ih h.2]
  | case3 => rfl

/-- Markup that has neither backslashes nor colons is read as it is. -/
theorem readMarkup_of_not_mem {message : List Char} (hback : '\\' ∉ message)
    (hcolon : ':' ∉ message) : readMarkup message = message := by
  have hlast : doubleLastBackslash message = message := by
    unfold doubleLastBackslash
    split
    · rfl
    · rename_i rest _ heq
      have hmem : '\\' ∈ message.reverse := by rw [heq]; exact List.mem_cons_self
      exact absurd (List.mem_reverse.1 hmem) hback
    · rfl
  have hmem : ∀ piece ∈ pieces false message, ∀ c ∈ piece, c ∈ message := fun piece hpiece c hc => by
    rw [← flatten_pieces false message]
    exact List.mem_flatten_of_mem hpiece hc
  have hpieces : (pieces false message).map
      (fun piece => Text.Emoji.replaceCodes (releaseBrackets piece)) = pieces false message := by
    refine (List.map_congr_left fun piece hpiece => ?_).trans (List.map_id _)
    rw [releaseBrackets_of_not_mem fun h => hback (hmem piece hpiece _ h),
      Text.Emoji.replaceCodes_of_not_mem fun h => hcolon (hmem piece hpiece _ h), id]
  rw [readMarkup, hlast, List.flatMap_def, hpieces, flatten_pieces]

/-- A line without tabs stays as it is, whatever its column. -/
theorem expandLine_of_not_mem {line : List Char} (h : '\t' ∉ line) (column : Nat) :
    expandLine column line = line := by
  rw [expandLine, List.splitOn_eq_singleton h, joinAtTabs]

/-- The lines of a text hold characters of the text only. -/
theorem mem_of_mem_splitOn {mark c : Char} {text part : List Char}
    (hpart : part ∈ text.splitOn mark) (hc : c ∈ part) : c ∈ text := by
  have htext : [mark].intercalate (text.splitOn mark) = text := List.intercalate_splitOn mark
  rw [← htext]
  revert hpart
  generalize text.splitOn mark = parts
  intro hpart
  induction parts with
  | nil => simp at hpart
  | cons first rest ih =>
    cases rest with
    | nil => simpa [List.mem_singleton.1 hpart] using hc
    | cons second rest =>
      rw [List.intercalate_cons_cons]
      rcases List.mem_cons.1 hpart with rfl | hrest
      · simp [hc]
      · exact List.mem_append_right _ (ih hrest)

/-- Where no character is a tab, the column does not matter. -/
theorem expandTabs_of_not_mem {text : List Char} (h : '\t' ∉ text) (column : Nat) :
    expandTabs column text = text := by
  have hline : ∀ line ∈ text.splitOn '\n', ∀ column, expandLine column line = line :=
    fun line hmem column => expandLine_of_not_mem (fun htab => h (mem_of_mem_splitOn hmem htab)) column
  have htext : ['\n'].intercalate (text.splitOn '\n') = text := List.intercalate_splitOn '\n'
  unfold expandTabs
  split
  · rename_i heq
    exact absurd heq (List.splitOn_ne_nil _ _)
  · rename_i line lines heq
    rw [heq] at hline htext
    have hlines : lines.map (expandLine 0) = lines :=
      (List.map_congr_left fun other hother =>
        hline other (List.mem_cons_of_mem _ hother) 0).trans (List.map_id _)
    rw [hline line List.mem_cons_self, hlines, htext]

/-- A message of characters that the console does not act upon is printed as it is. -/
theorem shown_eq_self {message : String}
    (h : ∀ c ∈ message.toList,
      c ≠ '\\' ∧ c ≠ ':' ∧ c ≠ '\t' ∧ isTerminalControl c = false) (column : Nat) :
    shown column message = message := by
  have hback : '\\' ∉ message.toList := fun hmem => (h _ hmem).1 rfl
  have hcolon : ':' ∉ message.toList := fun hmem => (h _ hmem).2.1 rfl
  have htab : '\t' ∉ message.toList := fun hmem => (h _ hmem).2.2.1 rfl
  have hkept : message.toList.filter (fun c => !isTerminalControl c) = message.toList := by
    rw [List.filter_eq_self]
    intro c hc
    simp [(h c hc).2.2.2]
  rw [shown, readMarkup_of_not_mem hback hcolon, hkept, expandTabs_of_not_mem htab,
    String.ofList_toList]

end Console
end CommandLine
end ChainAtlas
