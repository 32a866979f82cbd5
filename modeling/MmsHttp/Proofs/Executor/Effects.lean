import MmsHttp.Proofs.Executor.Outward

namespace MmsHttp.Executor

open Channel

private theorem used_of_admits {executor : Executor} {call : Call} {url : Url} {script : Script}
    {result : Result} (hadmits : executor.Admits call url)
    (hresult : (executor.execute Script.channel call script).answer = .ok result) :
    (executor.execute Script.channel call script).world.acquired =
        script.acquired ++ [executor.routeOf call url] ∧
      script.sent.length < (executor.execute Script.channel call script).world.sent.length := by
  obtain ⟨other, first, hgoes⟩ :=
    exists_goesOut_of_isAnswer hresult (isAnswer_of_admits hadmits hresult)
  refine ⟨acquired_of_admits hadmits script, ?_⟩
  rw [(hgoes.sent script).1, List.length_append, List.length_map]
  exact Nat.lt_add_of_pos_right length_legs_pos

/-- Arguments are checked before the network is touched, and exactly so: of the calls that
give a result, those that are refused leave the world untouched, and all others have taken
one route, with the proxy of the call and with TLS for secure URLs only, and have sent a
request. -/
theorem refused_iff_untouched (executor : Executor) (call : Call) (script : Script)
    (result : Result)
    (hresult : (executor.execute Script.channel call script).answer = .ok result) :
    let after := (executor.execute Script.channel call script).world
    (result.IsRefusal ↔ after.acquired = script.acquired ∧ after.sent = script.sent) ∧
    (result.IsAnswer ↔ ∃ url, Url.parse call.transaction.url = .ok url ∧
      after.acquired = script.acquired ++
        [⟨call.transaction.proxy, executor.means.resolver,
          if url.scheme = "https" then some executor.means.tls else none⟩] ∧
      script.sent.length < after.sent.length) := by
  intro after
  -- Whether the call is admitted decides both sides of both equivalences.
  have hgrown (route : Route) : script.acquired ≠ script.acquired ++ [route] := by simp
  by_cases hadmits : ∃ url, executor.Admits call url
  · obtain ⟨url, hadmits⟩ := hadmits
    obtain ⟨hacquired, hsent⟩ := used_of_admits hadmits hresult
    have hisAnswer := isAnswer_of_admits hadmits hresult
    have hnotRefusal := (Result.isAnswer_iff_not_isRefusal result).mp hisAnswer
    refine ⟨⟨fun h => absurd h hnotRefusal, fun h => ?_⟩, ⟨fun _ => ?_, fun _ => hisAnswer⟩⟩
    · exact absurd (h.1.symm.trans hacquired) (hgrown _)
    · refine ⟨url, hadmits.callable.parse, ?_, hsent⟩
      rw [hacquired]
      simp [routeOf, Client.Means.route, secures]
  · obtain ⟨hworld, hrefuses⟩ := execute_of_not_admits script (not_exists.mp hadmits)
    have hrefusal := hrefuses result hresult
    refine ⟨⟨fun _ => by simp only [after, hworld, and_self], fun _ => hrefusal⟩, ⟨fun h => ?_, ?_⟩⟩
    · exact absurd hrefusal ((Result.isAnswer_iff_not_isRefusal result).mp h)
    · rintro ⟨url, _, hacquired, _⟩
      simp only [after, hworld] at hacquired
      exact absurd hacquired (hgrown _)

/-- A message that is fetched takes its one route. -/
theorem refused_iff_untouched_fetch :
    let executor : Executor := { locale := "en_US" }
    let call : Call := { transaction := { method := "GET", url := "https://mms.example/m" } }
    let run := executor.execute Script.channel call { replies := [] }
    run.answer = .ok (.success none) ∧
      ∃ url, Url.parse call.transaction.url = .ok url ∧
        run.world.acquired = [⟨none, "system", if url.scheme = "https" then some "default" else none⟩] ∧
        0 < run.world.sent.length := by
  intro executor call run
  have hresult : run.answer = .ok (.success none) := by decide +kernel
  exact ⟨hresult, (refused_iff_untouched executor call _ _ hresult).2.mp (Or.inl ⟨none, rfl⟩)⟩

end MmsHttp.Executor
