import RpcStubs.Proofs.Function
import RpcStubs.Proofs.Python.Calls

/-! # The call that a generated function makes

A generated function calls the transport exactly once, with the name of its method and its arguments
in order.  That it calls it at all is `Module.run_eq`; that it does not call it again rests on what its
`try` statement calls, which is the error for a reply without result and nothing else.
-/

namespace RpcStubs

open Python Identifier

variable {α : Type} {settings : Settings} {headings : List Heading} {heading : Heading}

/-- Nothing but the error for a reply without result is called once there is a reply. -/
theorem Heading.handle_callsOnly (accepted : Accepted headings) (wellNamed : heading.WellNamed)
    (world : World α) (arguments : List (Value α)) (endpoint timeout reply : Value α) :
    (heading.handle world (Module.globals settings headings) arguments endpoint timeout
      reply).CallsOnly fun call => call.name = "InvalidReplyError" := by
  refine Statement.exec_callsOnly fun name member => ?_
  obtain rfl : name = "InvalidReplyError" := by
    simpa [translation, Statement.callees, Simple.callees, Expression.callees] using member
  have bound : (Module.globals settings headings : Frame α).lookup "InvalidReplyError" =
      some (.imported settings.exceptionsModule "InvalidReplyError") :=
    Module.lookup_preamble accepted (by decide)
  exact ⟨not_mem_ownNames wellNamed (by decide), _, _, bound, fun _ _ => rfl⟩

namespace Module

/-- Every generated function makes the right call: whatever comes of it, the transport is called
exactly once. -/
theorem calls_generated {document : Schema.Document} {text : String}
    (generated : generate settings document = .ok text) {method : Schema.Method}
    (member : method ∈ document.methods) (calling : Calling α method) (world : World α) :
    (callFunction world text (Stub.functionNameOf settings.snakeCase method.name)
        (calling.arguments ++ calling.more) calling.keywords).calls.filter
          (fun call => call.path = settings.transportModule ∧ call.name = "rpc_request") =
      [⟨settings.transportModule, "rpc_request", [.text method.name],
        [("params", .list calling.arguments),
          ("endpoint", calling.endpoint.getD (.text settings.endpoint)),
          ("timeout", calling.timeout.getD (.number settings.timeout.toNat))]⟩] := by
  have accepted := accepted_of_generate generated
  have wellNamed := wellNamed_of_generate generated member
  have behind : ∀ reply, (calling.handle settings world
      (document.methods.map (·.heading settings.snakeCase)) reply).CallsOnly
        fun call => call.name = "InvalidReplyError" :=
    Heading.handle_callsOnly accepted wellNamed world _ _ _
  obtain ⟨after, calls, others⟩ := Call.send_bind_calls world
    ((method.heading settings.snakeCase).prepared calling.arguments (calling.endpointIn settings)
      (calling.timeoutIn settings)) (calling.request settings) behind
  -- the two calls differ in their names, even if both are imported from one module
  have none : after.filter
      (fun call => call.path = settings.transportModule ∧ call.name = "rpc_request") = [] := by
    rw [List.filter_eq_nil_iff]
    intro call among
    simp [others call among]
  change (calling.run settings world text).calls.filter _ = [calling.request settings]
  rw [run_eq generated member calling world, Run.finish_calls, calls, List.filter_cons, none]
  simp [Calling.request, Heading.wireCall]

/-- One function is called without parameters and with nothing given, the other with two and a timeout
of its own. -/
theorem calls_hostile :
    ∃ text, generate .default .hostile = .ok text ∧
      (callFunction (fun _ => .ok .nothing : World Empty) text "ping" [] []).calls.filter
          (fun call => call.path = "pysui.rpc.request" ∧ call.name = "rpc_request") =
        [⟨"pysui.rpc.request", "rpc_request", [.text "sui_ping"],
          [("params", .list []), ("endpoint", .text "http://localhost:9000"),
            ("timeout", .number 30)]⟩] ∧
      (callFunction (fun _ => .ok .nothing : World Empty) text "get_item" [.text "a", .number 5]
          [("timeout", .number 3)]).calls.filter
          (fun call => call.path = "pysui.rpc.request" ∧ call.name = "rpc_request") =
        [⟨"pysui.rpc.request", "rpc_request", [.text "sui\"\\\n\"\"\"_getItem"],
          [("params", .list [.text "a", .number 5]), ("endpoint", .text "http://localhost:9000"),
            ("timeout", .number 3)]⟩] := by
  have ping : Stub.functionNameOf true "sui_ping" = "ping" := by decide +kernel
  have getItem : Stub.functionNameOf true "sui\"\\\n\"\"\"_getItem" = "get_item" := by
    decide +kernel
  obtain ⟨text, generated⟩ := generate_hostile
  refine ⟨text, generated, ?_, ?_⟩
  · rw [← ping]
    exact calls_generated generated (List.mem_cons_of_mem _ List.mem_cons_self)
      ⟨[], none, none, [], [], rfl, .keywords none none⟩ _
  · rw [← getItem]
    exact calls_generated generated List.mem_cons_self
      ⟨[.text "a", .number 5], none, some (.number 3), [], [("timeout", .number 3)], rfl,
        .keywords none (some (.number 3))⟩ _

end Module

end RpcStubs
