import Piste.Host.Sink

/-!
# Writing to a sink

What a sink has taken after several writes depends on their texts one after the other, and not on
where they are cut. `Seamless` says this of any writer, and `seamless_writer` that a sink is one. So
the outcome of many small writes is that of a single one.
-/

namespace Piste

namespace Text.Utf8

theorem encode_empty : encode "" = [] := rfl

theorem encode_append (s t : String) : encode (s ++ t) = encode s ++ encode t := by
  rw [encode, String.toList_append, List.flatMap_append, encode, encode]

end Text.Utf8

namespace Host

/-- It makes no difference to a writer how a text is cut into writes. -/
structure Seamless {m : Type → Type} [Monad m] (out : Writer m) : Prop where
  empty : out.write "" = pure ()
  append (s t : String) : out.write (s ++ t) = (do out.write s; out.write t)

namespace Sink

variable {text : String} {sink after : Sink} {limit : Nat}

/-! ## One write -/

theorem write_of_unlimited (h : sink.limit = none) :
    write text sink = (.ok (), { sink with taken := sink.taken ++ Text.Utf8.encode text }) := by
  rw [write, h]

theorem write_of_le (h : sink.limit = some limit)
    (hroom : (Text.Utf8.encode text).length ≤ limit - sink.taken.length) :
    write text sink = (.ok (), { sink with taken := sink.taken ++ Text.Utf8.encode text }) := by
  rw [write, h]
  simp only [if_pos hroom, List.take_of_length_le hroom]

theorem write_of_lt (h : sink.limit = some limit)
    (hroom : limit - sink.taken.length < (Text.Utf8.encode text).length) :
    write text sink = (.error sink.full,
      { sink with
        taken := sink.taken ++ (Text.Utf8.encode text).take (limit - sink.taken.length) }) := by
  rw [write, h]
  simp only [if_neg (Nat.not_le.2 hroom)]

/-! ## One write after another -/

theorem bind_of_ok {first second : ExceptT IoError (StateM Sink) Unit}
    (h : first sink = (.ok (), after)) : (do first; second) sink = second after := by
  change (match first sink with | (a, s) => ExceptT.bindCont (fun _ => second) a s) = _
  rw [h]
  rfl

theorem bind_of_error {first second : ExceptT IoError (StateM Sink) Unit} {e : IoError}
    (h : first sink = (.error e, after)) : (do first; second) sink = (.error e, after) := by
  change (match first sink with | (a, s) => ExceptT.bindCont (fun _ => second) a s) = _
  rw [h]
  rfl

theorem write_append (s t : String) : write (s ++ t) = (do write s; write t) := by
  funext sink
  cases hlimit : sink.limit with
  | none =>
    rw [bind_of_ok (write_of_unlimited hlimit), write_of_unlimited hlimit,
      write_of_unlimited (by exact hlimit), Text.Utf8.encode_append, List.append_assoc]
  | some limit =>
    have hlength := congrArg List.length (Text.Utf8.encode_append s t)
    rw [List.length_append] at hlength
    by_cases hs : (Text.Utf8.encode s).length ≤ limit - sink.taken.length
    · rw [bind_of_ok (write_of_le hlimit hs)]
      -- The second write finds the room that the first one has left.
      have hleft : limit - (sink.taken ++ Text.Utf8.encode s).length =
          limit - sink.taken.length - (Text.Utf8.encode s).length := by
        rw [List.length_append]
        omega
      by_cases ht : (Text.Utf8.encode t).length ≤
          limit - sink.taken.length - (Text.Utf8.encode s).length
      · rw [write_of_le hlimit (by omega), write_of_le (by exact hlimit) (by rwa [hleft]),
          Text.Utf8.encode_append, List.append_assoc]
      · rw [write_of_lt hlimit (by omega), write_of_lt (by exact hlimit) (by rw [hleft]; omega)]
        simp only [hleft, Text.Utf8.encode_append, List.take_append, List.take_of_length_le hs,
          List.append_assoc]
    · rw [bind_of_error (write_of_lt hlimit (by omega)), write_of_lt hlimit (by omega),
        Text.Utf8.encode_append, List.take_append_of_le_length (by omega)]

theorem seamless_writer : Seamless writer where
  empty := by
    funext sink
    show write "" sink = _
    cases hlimit : sink.limit with
    | none =>
      rw [write_of_unlimited hlimit, Text.Utf8.encode_empty, List.append_nil]
      rfl
    | some limit =>
      rw [write_of_le hlimit (Nat.zero_le _), Text.Utf8.encode_empty, List.append_nil]
      rfl
  append := write_append

end Sink

end Host

end Piste
