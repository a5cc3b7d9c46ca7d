import WordGame.Proofs.Dictionary.Normal
import WordGame.Proofs.Game.Report

/-!
No turn is hopeless. The fragment that a player is given was drawn from a word of the list, and that
word is an accepted answer, however many blanks are typed around it.
-/

namespace WordGame

namespace Room

variable {rules : Rules} {room : Room} {player : PlayerId} {text word : String}

theorem messages_of_accepted (supply : Supply) (current : room.current? = some player)
    (accepts : room.accepts rules (Text.trim text) = true) :
    [.answer room.id player true (Text.trim text) (some (supply.fragment 0))
        (room.pointsOf player + 1) (room.livesOf player),
      .turnEnded room.id player .correctAnswer (room.livesOf player) room.round
        (room.pointsOf player + 1)] <+:
      (room.answer rules supply player text).outcome.messages := by
  have running : room.phase = .inProgress := ((room.current?_eq_some_iff player).mp current).1
  unfold answer
  dsimp only
  rw [if_pos current, if_pos accepts]
  have passes : (room.reward supply player (Text.trim text)).Passes rules supply _ :=
    Play.advance_passes _ running
  obtain ⟨message, told, _⟩ := passes.goesOn running
  refine ⟨[message], ?_⟩
  rw [answerRight, told]
  have points : (room.score player).pointsOf player = room.pointsOf player + 1 := by
    rw [pointsOf_score, if_pos rfl]
  rw [← points]
  rfl

theorem accepts_of_mem {list : WordList} (dictionary : rules.dictionary = list.dictionary)
    (normal : IsNormal word) (member : word ∈ list.words) (filled : word.isEmpty = false)
    (inside : room.fragment.toList <:+: word.toList) : room.accepts rules word = true := by
  rw [accepts, filled, dictionary]
  change (!false && containsFragment word room.fragment && list.isWord word) = true
  rw [normal.containsFragment inside, WordList.isWord_of_mem normal member]
  rfl

/-- Whatever fragment of the list is asked for, some word of the list is judged right when the
player whose turn it is answers with it, with any blanks before and after it. -/
theorem some_word_is_accepted {words : List String} {list : WordList} (rules : Rules)
    (supply : Supply) (room : Room) (player : PlayerId) (made : WordList.ofWords words = .ok list)
    (dictionary : rules.dictionary = list.dictionary) (drawn : room.fragment ∈ list.fragments)
    (current : room.current? = some player) :
    ∃ word ∈ list.words, ∀ before after : String,
      (∀ c ∈ before.toList, Text.isBlank c = true) →
      (∀ c ∈ after.toList, Text.isBlank c = true) →
        [.answer room.id player true word (some (supply.fragment 0)) (room.pointsOf player + 1)
            (room.livesOf player),
          .turnEnded room.id player .correctAnswer (room.livesOf player) room.round
            (room.pointsOf player + 1)] <+:
          (room.answer rules supply player (before ++ word ++ after)).outcome.messages := by
  obtain ⟨word, member, filled, inside⟩ := WordList.exists_word_of_mem_fragments drawn
  have normal := WordList.isNormal_of_mem made member
  refine ⟨word, member, ?_⟩
  intro before after leading trailing
  have trimmed := normal.trim leading trailing
  have accepts := accepts_of_mem dictionary normal member filled inside
  rw [← trimmed] at accepts
  have told := messages_of_accepted supply current accepts
  rw [trimmed] at told
  exact told

/-- A fragment with a final sigma, which is lower case only at the end of its word. -/
theorem some_word_is_accepted_with_final_sigma :
    let list : WordList := ⟨["οδος", "i\u0307z", "a"]⟩
    let rules : Rules := ⟨{}, list.dictionary⟩
    let supply : Supply := ⟨1, fun _ => "i\u0307"⟩
    let room : Room := { Room.new 42 0 1 3 with phase := .inProgress, fragment := "ος", round := 1 }
    WordList.ofWords [" ΟΔΟΣ\u3000", "\u0130Z", "οδος", "A"] = .ok list ∧
      room.fragment ∈ list.fragments ∧ room.current? = some 1 ∧
      ∃ word ∈ list.words, ∀ before after : String,
        (∀ c ∈ before.toList, Text.isBlank c = true) →
        (∀ c ∈ after.toList, Text.isBlank c = true) →
          [.answer room.id 1 true word (some (supply.fragment 0)) (room.pointsOf 1 + 1)
              (room.livesOf 1),
            .turnEnded room.id 1 .correctAnswer (room.livesOf 1) room.round
              (room.pointsOf 1 + 1)] <+:
            (room.answer rules supply 1 (before ++ word ++ after)).outcome.messages := by
  intro list rules supply room
  have made : WordList.ofWords [" ΟΔΟΣ\u3000", "\u0130Z", "οδος", "A"] = .ok list := by
    decide +kernel
  have drawn : room.fragment ∈ list.fragments := by decide +kernel
  have current : room.current? = some 1 := by decide +kernel
  exact ⟨made, drawn, current,
    some_word_is_accepted rules supply room 1 made rfl drawn current⟩

end Room

end WordGame
