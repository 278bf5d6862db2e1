import Terrarium.Main
import Terrarium.Shutdown
import Terrarium.Simulation.Operation
import Terrarium.Proofs.Population.Occupancy
import Terrarium.Proofs.Simulation.Schedule
import Terrarium.Proofs.Simulation.Homogeneity
import Terrarium.Proofs.Simulation.Accounting
import Terrarium.Proofs.Simulation.Deduplication
import Terrarium.Proofs.Simulation.Lifespan
import Terrarium.Proofs.Simulation.Delay
import Terrarium.Proofs.Simulation.Cap
import Terrarium.Proofs.Instruction.Failure
import Terrarium.Proofs.Number.Order
import Terrarium.Proofs.Simulation.Failure
import Terrarium.Proofs.Instruction.Reseeding
import Terrarium.Proofs.Simulation.Reseeding
import Terrarium.Proofs.Simulation.Seed
import Terrarium.Proofs.Instruction.Children
import Terrarium.Proofs.Simulation.Offspring
import Terrarium.Proofs.Simulation.Budget
import Terrarium.Proofs.Number.Value
import Terrarium.Proofs.Number.Whole
import Terrarium.Proofs.Settings.Bounds
import Terrarium.Proofs.Population.Focus
import Terrarium.Proofs.Simulation.Guise
import Terrarium.Proofs.Simulation.RunLoop
import Terrarium.Proofs.Simulation.Observation
import Terrarium.Proofs.Simulation.Refusal
import Terrarium.Proofs.Simulation.Costs
import Terrarium.Proofs.Instruction.InPlace
import Terrarium.Proofs.Simulation.FocusedRun
import Terrarium.Proofs.Simulation.FocusedFrame
import Terrarium.Proofs.Population.Attention
import Terrarium.Proofs.Simulation.Attention
import Terrarium.Proofs.Instruction.Scopes
import Terrarium.Proofs.Simulation.Passage
import Terrarium.Proofs.Population.Culling
import Terrarium.Proofs.Simulation.Scopes
import Terrarium.Proofs.Simulation.Planting
import Terrarium.Proofs.Simulation.Rows
import Terrarium.Proofs.Habitat.Strikes
import Terrarium.Proofs.Batch
import Terrarium.Proofs.Simulation.Distinctness
import Terrarium.Proofs.Instruction.Reach
import Terrarium.Proofs.Instruction.Pointer
import Terrarium.Proofs.Simulation.Forks
import Terrarium.Proofs.Instruction.Clipboard
import Terrarium.Proofs.Picture.Directory
import Terrarium.Proofs.Picture.Rendering
import Terrarium.Proofs.Picture.Animation
import Terrarium.Proofs.Torus.Congruence
