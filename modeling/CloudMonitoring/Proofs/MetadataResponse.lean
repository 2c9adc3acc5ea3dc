import CloudMonitoring.Http.MetadataClient
import Mathlib.Data.List.TakeWhile

/-!
What a response of a metadata server says. It has a value only if it succeeded, declares its flavor and
arrived whole; the value is then the first line of its body, which has no line feed in it.
-/

namespace CloudMonitoring

/-- The first line of a text. It ends before the first line feed and takes no carriage return that
stands directly before that; without a line feed it is the whole text. -/
inductive FirstLine : List Char → List Char → Prop
  | whole {line} : '\n' ∉ line → FirstLine line line
  | fed {line rest} : '\n' ∉ line → line.getLast? ≠ some '\r' →
      FirstLine line (line ++ '\n' :: rest)
  | returned {line rest} : '\n' ∉ line → FirstLine line (line ++ '\r' :: '\n' :: rest)

theorem FirstLine.no_feed {line text : List Char} (isFirst : FirstLine line text) :
    '\n' ∉ line := by
  cases isFirst <;> assumption

namespace Text

variable {line text : List Char}

theorem takeWhile_of_no_feed (noFeed : '\n' ∉ line) : line.takeWhile (· ≠ '\n') = line := by
  rw [List.takeWhile_eq_self_iff]
  intro c member
  exact decide_eq_true fun isFeed => noFeed (isFeed ▸ member)

theorem takeWhile_before_feed (noFeed : '\n' ∉ line) (rest : List Char) :
    (line ++ '\n' :: rest).takeWhile (· ≠ '\n') = line := by
  rw [List.takeWhile_append_of_pos]
  · simp
  · intro c member
    exact decide_eq_true fun isFeed => noFeed (isFeed ▸ member)

theorem firstLine_of_no_feed (noFeed : '\n' ∉ line) : firstLine line = line := by
  simp only [firstLine, takeWhile_of_no_feed noFeed, Nat.lt_irrefl, false_and, if_false]

theorem firstLine_before_feed (noFeed : '\n' ∉ line) (rest : List Char) :
    firstLine (line ++ '\n' :: rest) =
      if line.getLast? = some '\r' then line.dropLast else line := by
  have shorter : line.length < (line ++ '\n' :: rest).length := by simp
  simp only [firstLine, takeWhile_before_feed noFeed, shorter, true_and]

theorem firstLine_of_relation (isFirst : FirstLine line text) : firstLine text = line := by
  cases isFirst with
  | whole noFeed => exact firstLine_of_no_feed noFeed
  | fed noFeed noReturn => rw [firstLine_before_feed noFeed, if_neg noReturn]
  | @returned rest noFeed =>
      have noFeedToo : '\n' ∉ line ++ ['\r'] := by simp [noFeed]
      have cut := firstLine_before_feed noFeedToo rest
      rwa [List.append_assoc, List.singleton_append, List.getLast?_concat, if_pos rfl,
        List.dropLast_concat] at cut

theorem firstLine_relation (text : List Char) : FirstLine (firstLine text) text := by
  by_cases feeds : '\n' ∈ text
  · obtain ⟨line, rest, rfl, noFeed⟩ := List.eq_append_cons_of_mem feeds
    rw [firstLine_before_feed noFeed]
    split
    · rename_i returns
      obtain ⟨shorter, rfl⟩ := List.getLast?_eq_some_iff.mp returns
      rw [List.dropLast_concat, List.append_assoc, List.singleton_append]
      exact .returned fun member => noFeed (List.mem_append_left _ member)
    · rename_i noReturn
      exact .fed noFeed noReturn
  · rw [firstLine_of_no_feed feeds]
    exact .whole feeds

theorem firstLine_eq_iff : firstLine text = line ↔ FirstLine line text := by
  constructor
  · rintro rfl
    exact firstLine_relation text
  · exact firstLine_of_relation

end Text

open Http (Response)

/-- Whether a response is that of a metadata server and holds a value. Of several headers that declare a
flavor the first one counts. -/
structure Http.Response.Holds (response : Response) (value : String) : Prop where
  succeeded : response.status = 200
  flavored : ∃ before after,
    response.headers = before ++ ("metadata-flavor", "Google".toUTF8.toList) :: after ∧
      ∀ header ∈ before, header.1 ≠ "metadata-flavor"
  firstLine : ∃ body, response.body = some body ∧ FirstLine value.toList body.toList

theorem Http.Response.Holds.no_feed {response : Response} {value : String}
    (holds : response.Holds value) : '\n' ∉ value.toList := by
  obtain ⟨_, _, isFirst⟩ := holds.firstLine
  exact isFirst.no_feed

theorem Http.Response.header?_eq_some_iff (response : Response) (name : String)
    (value : List UInt8) :
    response.header? name = some value ↔
      ∃ before after, response.headers = before ++ (name, value) :: after ∧
        ∀ header ∈ before, header.1 ≠ name := by
  simp only [header?, Option.map_eq_some_iff, List.find?_eq_some_iff_append]
  constructor
  · rintro ⟨⟨_, _⟩, ⟨same, before, after, split, others⟩, rfl⟩
    have sameName := of_decide_eq_true same
    subst sameName
    exact ⟨before, after, split, fun header member => by simpa using others header member⟩
  · rintro ⟨before, after, split, others⟩
    exact ⟨(name, value), ⟨by simp, before, after, split, fun header member => by
      simpa using others header member⟩, rfl⟩

theorem MetadataClient.read_fst_eq_some_iff (path : String) (response : Response) (value : String) :
    (read path response).1 = some value ↔ response.Holds value := by
  have flavored := response.header?_eq_some_iff flavorHeader flavor.toUTF8.toList
  constructor
  · intro found
    simp only [read] at found
    split at found
    · simp at found
    · rename_i succeeded
      split at found
      · simp at found
      · rename_i declared
        obtain ⟨body, arrived, rfl⟩ := Option.map_eq_some_iff.mp found
        refine ⟨not_not.mp succeeded, flavored.mp (not_not.mp declared), body, arrived, ?_⟩
        rw [String.toList_ofList]
        exact Text.firstLine_eq_iff.mp rfl
  · rintro ⟨succeeded, declared, body, arrived, isFirst⟩
    have isFlavored := flavored.mpr declared
    simp [read, succeeded, isFlavored, arrived, Text.firstLine_eq_iff.mpr isFirst]

end CloudMonitoring
