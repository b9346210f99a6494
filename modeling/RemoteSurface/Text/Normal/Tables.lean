import RemoteSurface.Text.Runs
/-!
What composition of characters needs to know: which characters are marks, in which order marks
stand, and which two characters make up a third.
-/
namespace RemoteSurface

namespace Text

/-- The runs of marks, M; all others are N. -/
def markRuns : List Run := Run.parse <| String.join
  ["lcN34M7nN7M7bN19M1N1M1N2M1N2M1N1M20NbM1cNlMgN1M2tN7M2N6M2N2M1N4MzN1MuNrM2jNbM1mN9M9N1MoN4M1N9M",
   "1N3M1N5M17N3M1oN8M16NoM1NxM1iN3M1NiM1N7MaN2MtN3M1kN1M1N7M2N2M2N3M9N1MaN2MqN1M2N3M1kN1M1N5M4N2M",
   "2N3M3N1MuN2M3N1MbN3M1kN1M1N8M1N3M1N3MkN2MmN6M1N3M1kN1M1N7M2N2M2N3M7N3MaN2MuN1M1nN5M3N3M1N4M9N1",
   "M14N5M1jN1M1N7M1N3M1N4M7N2MbN2MtN3M1kN1M1N7M1N3M1N4M7N2MbN2MsN4M1jN2M1N7M1N3M1N4M9N1MaN2MtN3M1",
   "yN1M4N6M1N1M1N8MiN2M1pN1M2N7McN8M2qN1M2N9MbN6M22N2MrN1M1N1M1N1M4N2M1dNkM1N2M5NbM1N10M9N1M2sNkM",
   "nN4M4N3M1N3M2N7M3N4MdNcM1N1MaN4MjjN3MqaN4MsN3MtN2MuN2M1sNwM9N1M19N3M1N1M39N2MyN1M3aNcM4NcM63N5",
   "M1lNaM1NtM2N1M1cNvM1dN5M1bNhM12N9McN3MuNdM1kNeM1cNkM48N3M1NlM4N1M6N1M2N3M5iN1sMk0NxM2daN3M3xN1",
   "M2oNwMfeN6M2xN2Mn9wN4M1NaMwN2M28N2M7kN1M3N1M4N1MnN5M4N1M2bN2M1eNiMqNiMdN1M12N8MpNdM18N4M1bNeM1",
   "0N1M1vNeMcN1M8N2M19N3M1eN1M1N3M2N2M5N2M1N1M15N5M5N2M6kN8M1N2Mfn4N1MkhNgMgNgMr1N1M6aN1M45N5M1ae",
   "N3M1N2M5N4M14N3M4N1M4lN2MfxN4MarN2M49NbM1dN4M3eN3M1hNfM15N1M2N2MaN4M19NbM7N1M1pN3M10NeMgN2M18N",
   "1McN3M1cNeM8N4M1N2M2kNcM6N1M4gNcMlN4M1jN2M1N7M2N2M2N3M9N1MaN2M2N7M3N5M5cNiMnN1M29NkM6jN7M2N9Mr",
   "N2M2aNhM2yNdM2tNfM74NfM6tN6M1N2M2N4M1N1M1N2M3xN7M2N7M3N1MsNaM14N7M1N4M8N1M9NbM1aNgMb9N8M1N8M2a",
   "NmM1NeM3eN6M3N1M1N2M1N7M1N1M1uN5M1N2M1N5M9nN4Mf09N5M1nN7Mt4N1M1N1jM7N4M29N1MbN2Mf57N2M3mpN1aM2",
   "NnMf2N5M3N6M8N8M2N7MuN4M44N3M1izN1jM4N1eM8N1MeN1MmN5M1NfM11sN7M1NhM2N7M1N2M1N5M79N7MafN1M1pN4M",
   "15sN7M31N7MgzhxN6oM"]

/-- The runs of combining classes, each with its class. -/
def classRuns : List Run := Run.parse <| String.join
  ["lcC0.lC6e.1C6g.4C64.1C6g.1C60.5C64.2C5m.4C64.2C5m.bC64.5C1.4C64.8C6e.1C6o.1C6e.3C64.3C6e.2C64.",
   "1C0.3C6e.4C64.1C6e.1C6g.2C64.1C6e.1C6h.2C6i.1C6h.2C6i.1C6h.dC6e.7nC0.5C6e.7dC0.1C64.4C6e.1C64.",
   "3C6e.1C66.1C64.6C6e.6C64.2C6e.1C64.2C6e.1C66.1C6c.1C6e.1Ca.1Cb.1Cc.1Cd.1Ce.1Cf.1Cg.1Ch.1Ci.2Cj",
   ".1Ck.1Cl.1Cm.1C0.1Cn.1C0.1Co.1Cp.1C0.1C6e.1C64.1C0.1Ci.20C0.8C6e.1Cu.1Cv.1Cw.1cC0.1Cr.1Cs.1Ct.",
   "1Cu.1Cv.1Cw.1Cx.1Cy.2C6e.2C64.5C6e.1C64.2C6e.1C64.gC0.1Cz.2tC0.7C6e.2C0.4C6e.1C64.1C6e.2C0.2C6",
   "e.1C0.1C64.2C6e.1C64.zC0.1C10.uC0.1C6e.1C64.2C6e.1C64.2C6e.3C64.1C6e.2C64.1C6e.1C64.3C6e.1C64.",
   "1C6e.1C64.1C6e.1C64.1C6e.1C64.2C6e.4gC0.7C6e.1C64.1C6e.9C0.1C64.oC0.4C6e.1C0.9C6e.1C0.3C6e.1C0",
   ".5C6e.17C0.3C64.1oC0.1C6e.3C64.4C6e.16C0.5C6e.5C64.eC6e.1C0.1C64.2C6e.1C64.2C6e.1C64.3C6e.3C64",
   ".1Cr.1Cs.1Ct.3C6e.1C64.2C6e.2C64.5C6e.1oC0.1C7.gC0.1C9.3C0.1C6e.1C64.2C6e.2vC0.1C7.gC0.1C9.1cC",
   "0.1C6e.1pC0.1C7.gC0.1C9.32C0.1C7.gC0.1C9.32C0.1C7.gC0.1C9.3jC0.1C9.32C0.1C7.gC0.1C9.7C0.1C2c.1",
   "C2j.2tC0.1C7.gC0.1C9.31C0.2C9.gC0.1C9.3gC0.1C9.31C0.2C2v.1C9.dC0.4C2z.30C0.2C3a.1C9.dC0.4C3e.2",
   "4C0.2C64.rC0.1C64.1C0.1C64.1C0.1C60.1jC0.1C3l.1C3m.1C0.1C3o.5C0.4C3m.2C0.1C3m.1C0.2C6e.1C9.1C0",
   ".2C6e.1qC0.1C64.34C0.1C7.1C0.2C9.2aC0.1C64.jzC0.3C6e.qcC0.2C9.uC0.1C9.4dC0.1C9.aC0.1C6e.5nC0.1",
   "C6c.3zC0.1C66.1C6e.1C64.63C0.1C6e.1C64.1zC0.1C9.kC0.8C6e.2C0.1C64.1cC0.5C6e.6C64.2C6e.1C64.1C0",
   ".2C64.2C6e.2C64.5C6e.1C64.4C6e.2tC0.1C7.fC0.1C9.12C0.1C6e.1C64.7C6e.1iC0.2C9.1mC0.1C7.bC0.2C9.",
   "1vC0.1C7.48C0.3C6e.1C0.1C1.5C64.2C6e.4C64.1C6e.1C0.7C1.4C0.1C64.6C0.1C6e.3C0.2C6e.5iC0.2C6e.1C",
   "64.7C6e.1C64.2C6e.1C6i.1C5y.1C64.1C5m.11C6e.1C6g.2C6c.1C64.1C62.1C6e.1C6h.1C64.1C6e.1C64.k0C0.",
   "2C6e.2C1.4C6e.3C1.2C6e.4C0.1C6e.3C0.2C1.1C6e.1C64.1C6e.2C1.4C64.1C6e.2daC0.3C6e.3xC0.1C9.2oC0.",
   "wC6e.feC0.1C62.1C6c.1C6g.1C66.2C68.2xC0.2C8.n9wC0.1C6e.4C0.aC6e.wC0.2C6e.28C0.2C6e.7oC0.1C9.11",
   "C0.1C9.47C0.1C9.rC0.iC6e.1lC0.3C64.11C0.1C9.2nC0.1C7.cC0.1C9.6nC0.1C6e.1C0.2C6e.1C64.2C0.2C6e.",
   "5C0.2C6e.1C0.1C6e.1gC0.1C9.6uC0.1C9.fn4C0.1Cq.ldC0.7C6e.7C64.2C6e.r1C0.1C64.6aC0.1C64.45C0.5C6",
   "e.1aqC0.1C64.1C0.1C6e.14C0.1C6e.1C1.1C64.4C0.1C9.4lC0.1C6e.1C64.fxC0.4C6e.arC0.2C6e.49C0.2C64.",
   "3C6e.1C64.1C6e.4C64.1dC0.1C6e.1C64.1C6e.1C64.5cC0.1C9.15C0.1C9.eC0.1C9.1lC0.1C9.1C7.1xC0.3C6e.",
   "1cC0.2C9.1qC0.1C7.24C0.1C9.9C0.1C7.2yC0.1C9.1C7.4yC0.1C7.1C9.28C0.2C7.gC0.1C9.oC0.7C6e.3C0.5C6",
   "e.5pC0.1C9.3C0.1C7.nC0.1C6e.2rC0.1C9.1C7.6zC0.1C9.1C7.3iC0.1C9.3aC0.1C9.1C7.37C0.1C9.7hC0.1C9.",
   "1C7.76C0.2C9.4C0.1C7.4cC0.1C9.2bC0.1C9.iC0.1C9.29C0.1C9.bpC0.1C9.76C0.1C7.1C0.2C9.29C0.1C9.fa0",
   "C0.5C1.1nC0.7C6e.xlC0.2C6.f58C0.1C1.43qC0.2C60.3C1.3C0.1C6a.5C60.8C0.8C64.2C0.5C6e.2C64.uC0.4C",
   "6e.44C0.3C6e.2pnC0.7C6e.1C0.hC6e.2C0.7C6e.1C0.2C6e.1C0.5C6e.79C0.7C6e.afC0.1C6e.1pC0.4C6e.15sC",
   "0.7C64.31C0.6C6e.1C7."]

/-- The composed characters, P, each with the two that make it up; all others are N. -/
def pairRuns : List Run := Run.parse <| String.join
  ["5cN1P1t.lc.1P1t.ld.1P1t.le.1P1t.lf.1P1t.lk.1P1t.lm.1N1P1v.mf.1P1x.lc.1P1x.ld.1P1x.le.1P1x.lk.1",
   "P21.lc.1P21.ld.1P21.le.1P21.lk.1N1P26.lf.1P27.lc.1P27.ld.1P27.le.1P27.lf.1P27.lk.2N1P2d.lc.1P2",
   "d.ld.1P2d.le.1P2d.lk.1P2h.ld.2N1P2p.lc.1P2p.ld.1P2p.le.1P2p.lf.1P2p.lk.1P2p.lm.1N1P2r.mf.1P2t.",
   "lc.1P2t.ld.1P2t.le.1P2t.lk.1P2x.lc.1P2x.ld.1P2x.le.1P2x.lk.1N1P32.lf.1P33.lc.1P33.ld.1P33.le.1",
   "P33.lf.1P33.lk.2N1P39.lc.1P39.ld.1P39.le.1P39.lk.1P3d.ld.1N1P3d.lk.1P1t.lg.1P2p.lg.1P1t.li.1P2",
   "p.li.1P1t.mg.1P2p.mg.1P1v.ld.1P2r.ld.1P1v.le.1P2r.le.1P1v.lj.1P2r.lj.1P1v.lo.1P2r.lo.1P1w.lo.1",
   "P2s.lo.2N1P1x.lg.1P2t.lg.1P1x.li.1P2t.li.1P1x.lj.1P2t.lj.1P1x.mg.1P2t.mg.1P1x.lo.1P2t.lo.1P1z.",
   "le.1P2v.le.1P1z.li.1P2v.li.1P1z.lj.1P2v.lj.1P1z.mf.1P2v.mf.1P20.le.1P2w.le.2N1P21.lf.1P2x.lf.1",
   "P21.lg.1P2x.lg.1P21.li.1P2x.li.1P21.mg.1P2x.mg.1P21.lj.3N1P22.le.1P2y.le.1P23.mf.1P2z.mf.1N1P2",
   "4.ld.1P30.ld.1P24.mf.1P30.mf.1P24.lo.1P30.lo.4N1P26.ld.1P32.ld.1P26.mf.1P32.mf.1P26.lo.1P32.lo",
   ".3N1P27.lg.1P33.lg.1P27.li.1P33.li.1P27.ln.1P33.ln.2N1P2a.ld.1P36.ld.1P2a.mf.1P36.mf.1P2a.lo.1",
   "P36.lo.1P2b.ld.1P37.ld.1P2b.le.1P37.le.1P2b.mf.1P37.mf.1P2b.lo.1P37.lo.1P2c.mf.1P38.mf.1P2c.lo",
   ".1P38.lo.2N1P2d.lf.1P39.lf.1P2d.lg.1P39.lg.1P2d.li.1P39.li.1P2d.lm.1P39.lm.1P2d.ln.1P39.ln.1P2",
   "d.mg.1P39.mg.1P2f.le.1P3b.le.1P2h.le.1P3d.le.1P2h.lk.1P2i.ld.1P3e.ld.1P2i.lj.1P3e.lj.1P2i.lo.1",
   "P3e.lo.xN1P27.m3.1P33.m3.dN1P2d.m3.1P39.m3.sN1P1t.lo.1P2p.lo.1P21.lo.1P2x.lo.1P27.lo.1P33.lo.1",
   "P2d.lo.1P39.lo.1P64.lg.1P70.lg.1P64.ld.1P70.ld.1P64.lo.1P70.lo.1P64.lc.1P70.lc.1N1P5g.lg.1P6c.",
   "lg.1Pfa.lg.1Pfb.lg.1P5i.lg.1P6e.lg.2N1P1z.lo.1P2v.lo.1P23.lo.1P2z.lo.1P27.mg.1P33.mg.1Pdm.lg.1",
   "Pdn.lg.1Pc7.lo.1Pia.lo.1P2y.lo.3N1P1z.ld.1P2v.ld.2N1P26.lc.1P32.lc.1P5h.ld.1P6d.ld.1P5i.ld.1P6",
   "e.ld.1P60.ld.1P6w.ld.1P1t.lr.1P2p.lr.1P1t.lt.1P2p.lt.1P1x.lr.1P2t.lr.1P1x.lt.1P2t.lt.1P21.lr.1",
   "P2x.lr.1P21.lt.1P2x.lt.1P27.lr.1P33.lr.1P27.lt.1P33.lt.1P2a.lr.1P36.lr.1P2a.lt.1P36.lt.1P2d.lr",
   ".1P39.lr.1P2d.lt.1P39.lt.1P2b.me.1P37.me.1P2c.me.1P38.me.2N1P20.lo.1P2w.lo.6N1P1t.lj.1P2p.lj.1",
   "P1x.mf.1P2t.mf.1P5y.lg.1P6u.lg.1P5x.lg.1P6t.lg.1P27.lj.1P33.lj.1Pfi.lg.1Pfj.lg.1P2h.lg.1P3d.lg",
   ".9dN1P4o.ld.1Ppd.ld.1N1Pph.ld.1Ppj.ld.1Ppl.ld.1N1Ppr.ld.1N1Ppx.ld.1Pq1.ld.1Pqy.ld.pN1Ppl.lk.1P",
   "px.lk.1Pq9.ld.1Pqd.ld.1Pqf.ld.1Pqh.ld.1Pqz.ld.pN1Pqh.lk.1Pqt.lk.1Pqn.ld.1Pqt.ld.1Pqx.ld.4N1Pr6",
   ".ld.1Pr6.lk.17N1Pt1.lc.1Pt1.lk.1N1Psz.ld.3N1Psm.lk.4N1Pt6.ld.1Pt4.lc.1Ptf.li.aN1Pt4.li.vN1Pu0.",
   "li.mN1Ptx.lc.1Ptx.lk.1N1Ptv.ld.3N1Puu.lk.4N1Pu2.ld.1Pu0.lc.1Pub.li.nN1Pvo.lr.1Pvp.lr.21N1Pt2.l",
   "i.1Pty.li.dN1Psw.li.1Pts.li.1Psw.lk.1Pts.lk.2N1Pt1.li.1Ptx.li.2N1Pyg.lk.1Pyh.lk.1Pt2.lk.1Pty.l",
   "k.1Pt3.lk.1Ptz.lk.2N1Pt4.lg.1Pu0.lg.1Pt4.lk.1Pu0.lk.1Pta.lk.1Pu6.lk.2N1Pyw.lk.1Pyx.lk.1Ptp.lk.",
   "1Pul.lk.1Ptf.lg.1Pub.lg.1Ptf.lk.1Pub.lk.1Ptf.ln.1Pub.ln.1Ptj.lk.1Puf.lk.2N1Ptn.lk.1Puj.lk.88N1",
   "P17r.18z.1P17r.190.1P18o.190.1P17r.191.1P18q.190.49N1P1cl.190.1N1P1c1.190.gN1P1ci.190.glN1P1t4",
   ".1to.7N1P1tc.1to.2N1P1tf.1to.46N1P1xj.1xa.1P1xj.1xz.ajN1P287.28m.2N1P287.27y.1P287.28n.1zN1P2a",
   "a.2c7.1hN1P2bq.2bi.1P2br.2bi.1P2bq.2c7.3fN1P2fa.2fq.3bN1P2in.2j9.6N1P2iu.2j9.1P2iu.2ja.1N1P2iu",
   ".2iq.1P2iy.2j9.3iN1P2me.2m6.1P2mf.2m6.1P2me.2mv.3xN1P2qh.2q2.1N1P2qh.2q7.1P2qk.2q2.1P2qh.2qn.g",
   "7N1P36t.372.25bN1P5c5.5dh.1N1P5c7.5dh.1N1P5c9.5dh.1N1P5cb.5dh.1N1P5cd.5dh.3N1P5ch.5dh.14N1P5dm",
   ".5dh.1N1P5do.5dh.2N1P5dq.5dh.1P5dr.5dh.1N1P5du.5dh.jgN1P1t.md.1P2p.md.1P1u.lj.1P2q.lj.1P1u.mb.",
   "1P2q.mb.1P1u.mp.1P2q.mp.1P5j.ld.1P6f.ld.1P1w.lj.1P2s.lj.1P1w.mb.1P2s.mb.1P1w.mp.1P2s.mp.1P1w.m",
   "f.1P2s.mf.1P1w.ml.1P2s.ml.1P7m.lc.1P7n.lc.1P7m.ld.1P7n.ld.1P1x.ml.1P2t.ml.1P1x.mo.1P2t.mo.1Pfc",
   ".li.1Pfd.li.1P1y.lj.1P2u.lj.1P1z.lg.1P2v.lg.1P20.lj.1P2w.lj.1P20.mb.1P2w.mb.1P20.lk.1P2w.lk.1P",
   "20.mf.1P2w.mf.1P20.mm.1P2w.mm.1P21.mo.1P2x.mo.1P5r.ld.1P6n.ld.1P23.ld.1P2z.ld.1P23.mb.1P2z.mb.",
   "1P23.mp.1P2z.mp.1P24.mb.1P30.mb.1P5yu.lg.1P5yv.lg.1P24.mp.1P30.mp.1P24.ml.1P30.ml.1P25.ld.1P31",
   ".ld.1P25.lj.1P31.lj.1P25.mb.1P31.mb.1P26.lj.1P32.lj.1P26.mb.1P32.mb.1P26.mp.1P32.mp.1P26.ml.1P",
   "32.ml.1P5x.ld.1P6t.ld.1P5x.lk.1P6t.lk.1P98.lc.1P99.lc.1P98.ld.1P99.ld.1P28.ld.1P34.ld.1P28.lj.",
   "1P34.lj.1P2a.lj.1P36.lj.1P2a.mb.1P36.mb.1P5zu.lg.1P5zv.lg.1P2a.mp.1P36.mp.1P2b.lj.1P37.lj.1P2b",
   ".mb.1P37.mb.1P9m.lj.1P9n.lj.1P9s.lj.1P9t.lj.1P602.lj.1P603.lj.1P2c.lj.1P38.lj.1P2c.mb.1P38.mb.",
   "1P2c.mp.1P38.mp.1P2c.ml.1P38.ml.1P2d.mc.1P39.mc.1P2d.mo.1P39.mo.1P2d.ml.1P39.ml.1Pa0.ld.1Pa1.l",
   "d.1Pa2.lk.1Pa3.lk.1P2e.lf.1P3a.lf.1P2e.mb.1P3a.mb.1P2f.lc.1P3b.lc.1P2f.ld.1P3b.ld.1P2f.lk.1P3b",
   ".lk.1P2f.lj.1P3b.lj.1P2f.mb.1P3b.mb.1P2g.lj.1P3c.lj.1P2g.lk.1P3c.lk.1P2h.lj.1P3d.lj.1P2i.le.1P",
   "3e.le.1P2i.mb.1P3e.mb.1P2i.mp.1P3e.mp.1P2w.mp.1P38.lk.1P3b.lm.1P3d.lm.1N1Pan.lj.4N1P1t.mb.1P2p",
   ".mb.1P1t.ll.1P2p.ll.1P5e.ld.1P6a.ld.1P5e.lc.1P6a.lc.1P5e.ll.1P6a.ll.1P5e.lf.1P6a.lf.1P61s.le.1",
   "P61t.le.1P76.ld.1P77.ld.1P76.lc.1P77.lc.1P76.ll.1P77.ll.1P76.lf.1P77.lf.1P61s.li.1P61t.li.1P1x",
   ".mb.1P2t.mb.1P1x.ll.1P2t.ll.1P1x.lf.1P2t.lf.1P5m.ld.1P6i.ld.1P5m.lc.1P6i.lc.1P5m.ll.1P6i.ll.1P",
   "5m.lf.1P6i.lf.1P62g.le.1P62h.le.1P21.ll.1P2x.ll.1P21.mb.1P2x.mb.1P27.mb.1P33.mb.1P27.ll.1P33.l",
   "l.1P5w.ld.1P6s.ld.1P5w.lc.1P6s.lc.1P5w.ll.1P6s.ll.1P5w.lf.1P6s.lf.1P630.le.1P631.le.1Pbk.ld.1P",
   "bl.ld.1Pbk.lc.1Pbl.lc.1Pbk.ll.1Pbl.ll.1Pbk.lf.1Pbl.lf.1Pbk.mb.1Pbl.mb.1P2d.mb.1P39.mb.1P2d.ll.",
   "1P39.ll.1Pbz.ld.1Pc0.ld.1Pbz.lc.1Pc0.lc.1Pbz.ll.1Pc0.ll.1Pbz.lf.1Pc0.lf.1Pbz.mb.1Pc0.mb.1P2h.l",
   "c.1P3d.lc.1P2h.mb.1P3d.mb.1P2h.ll.1P3d.ll.1P2h.lf.1P3d.lf.6N1Pq9.lv.1Pq9.lw.1P64g.lc.1P64h.lc.",
   "1P64g.ld.1P64h.ld.1P64g.n6.1P64h.n6.1Ppd.lv.1Ppd.lw.1P64o.lc.1P64p.lc.1P64o.ld.1P64p.ld.1P64o.",
   "n6.1P64p.n6.1Pqd.lv.1Pqd.lw.1P64w.lc.1P64x.lc.1P64w.ld.1P64x.ld.2N1Pph.lv.1Pph.lw.1P654.lc.1P6",
   "55.lc.1P654.ld.1P655.ld.2N1Pqf.lv.1Pqf.lw.1P65c.lc.1P65d.lc.1P65c.ld.1P65d.ld.1P65c.n6.1P65d.n",
   "6.1Ppj.lv.1Ppj.lw.1P65k.lc.1P65l.lc.1P65k.ld.1P65l.ld.1P65k.n6.1P65l.n6.1Pqh.lv.1Pqh.lw.1P65s.",
   "lc.1P65t.lc.1P65s.ld.1P65t.ld.1P65s.n6.1P65t.n6.1Ppl.lv.1Ppl.lw.1P660.lc.1P661.lc.1P660.ld.1P6",
   "61.ld.1P660.n6.1P661.n6.1Pqn.lv.1Pqn.lw.1P668.lc.1P669.lc.1P668.ld.1P669.ld.2N1Ppr.lv.1Ppr.lw.",
   "1P66g.lc.1P66h.lc.1P66g.ld.1P66h.ld.2N1Pqt.lv.1Pqt.lw.1P66o.lc.1P66p.lc.1P66o.ld.1P66p.ld.1P66",
   "o.n6.1P66p.n6.1N1Ppx.lw.1N1P66x.lc.1N1P66x.ld.1N1P66x.n6.1Pqx.lv.1Pqx.lw.1P674.lc.1P675.lc.1P6",
   "74.ld.1P675.ld.1P674.n6.1P675.n6.1Pq1.lv.1Pq1.lw.1P67c.lc.1P67d.lc.1P67c.ld.1P67d.ld.1P67c.n6.",
   "1P67d.n6.1Pq9.lc.1N1Pqd.lc.1N1Pqf.lc.1N1Pqh.lc.1N1Pqn.lc.1N1Pqt.lc.1N1Pqx.lc.3N1P64g.n9.1P64h.",
   "n9.1P64i.n9.1P64j.n9.1P64k.n9.1P64l.n9.1P64m.n9.1P64n.n9.1P64o.n9.1P64p.n9.1P64q.n9.1P64r.n9.1",
   "P64s.n9.1P64t.n9.1P64u.n9.1P64v.n9.1P65c.n9.1P65d.n9.1P65e.n9.1P65f.n9.1P65g.n9.1P65h.n9.1P65i",
   ".n9.1P65j.n9.1P65k.n9.1P65l.n9.1P65m.n9.1P65n.n9.1P65o.n9.1P65p.n9.1P65q.n9.1P65r.n9.1P674.n9.",
   "1P675.n9.1P676.n9.1P677.n9.1P678.n9.1P679.n9.1P67a.n9.1P67b.n9.1P67c.n9.1P67d.n9.1P67e.n9.1P67",
   "f.n9.1P67g.n9.1P67h.n9.1P67i.n9.1P67j.n9.1Pq9.li.1Pq9.lg.1P67k.n9.1Pq9.n9.1Pq4.n9.1N1Pq9.n6.1P",
   "69i.n9.1Ppd.li.1Ppd.lg.1Ppd.lc.1N1Ppd.n9.4N1P4o.n6.1P67o.n9.1Pqf.n9.1Pq6.n9.1N1Pqf.n6.1P69y.n9",
   ".1Pph.lc.1N1Ppj.lc.1N1Ppj.n9.1P69r.lc.1P69r.ld.1P69r.n6.1Pqh.li.1Pqh.lg.1Pqy.lc.3N1Pqh.n6.1Pqy",
   ".n6.1Ppl.li.1Ppl.lg.1Ppl.lc.2N1P6bi.lc.1P6bi.ld.1P6bi.n6.1Pqt.li.1Pqt.lg.1Pqz.lc.1N1Pqp.lv.1Pq",
   "p.lw.1Pqt.n6.1Pqz.n6.1Ppx.li.1Ppx.lg.1Ppx.lc.1N1Ppt.lw.1P4o.lc.4N1P67w.n9.1Pqx.n9.1Pr2.n9.1N1P",
   "qx.n6.1P6ba.n9.1Ppr.lc.1N1Pq1.lc.1N1Pq1.n9.bhN1P6mo.mw.1P6mq.mw.iN1P6ms.mw.uN1P6og.mw.1P6ok.mw",
   ".1P6oi.mw.1gN1P6pv.mw.4N1P6q0.mw.2N1P6q3.mw.nN1P6qr.mw.1N1P6qt.mw.qN1P6rg.mw.2N1P6rn.mw.2N1P6r",
   "p.mw.1N1P6rs.mw.mN1P1p.mw.1N1P6sh.mw.aN1P6rx.mw.1P1o.mw.1P1q.mw.1P6sk.mw.1P6sl.mw.2N1P6sy.mw.1",
   "P6sz.mw.2N1P6t2.mw.1P6t3.mw.6N1P6t6.mw.1P6t7.mw.2N1P6te.mw.1P6tf.mw.2N1P6ti.mw.1P6tj.mw.yN1P6u",
   "a.mw.1P6ug.mw.1P6uh.mw.1P6uj.mw.1cN1P6t8.mw.1P6t9.mw.1P6tt.mw.1P6tu.mw.6N1P6uq.mw.1P6ur.mw.1P6",
   "us.mw.1P6ut.mw.2n2N1P9jf.9ll.1N1P9jh.9ll.1N1P9jj.9ll.1N1P9jl.9ll.1N1P9jn.9ll.1N1P9jp.9ll.1N1P9",
   "jr.9ll.1N1P9jt.9ll.1N1P9jv.9ll.1N1P9jx.9ll.1N1P9jz.9ll.1N1P9k1.9ll.2N1P9k4.9ll.1N1P9k6.9ll.1N1",
   "P9k8.9ll.6N1P9kf.9ll.1P9kf.9lm.1N1P9ki.9ll.1P9ki.9lm.1N1P9kl.9ll.1P9kl.9lm.1N1P9ko.9ll.1P9ko.9",
   "lm.1N1P9kr.9ll.1P9kr.9lm.mN1P9ja.9ll.9N1P9lp.9ll.dN1P9m3.9ll.1N1P9m5.9ll.1N1P9m7.9ll.1N1P9m9.9",
   "ll.1N1P9mb.9ll.1N1P9md.9ll.1N1P9mf.9ll.1N1P9mh.9ll.1N1P9mj.9ll.1N1P9ml.9ll.1N1P9mn.9ll.1N1P9mp",
   ".9ll.2N1P9ms.9ll.1N1P9mu.9ll.1N1P9mw.9ll.6N1P9n3.9ll.1P9n3.9lm.1N1P9n6.9ll.1P9n6.9lm.1N1P9n9.9",
   "ll.1P9n9.9lm.1N1P9nc.9ll.1P9nc.9lm.1N1P9nf.9ll.1P9nf.9lm.mN1P9ly.9ll.2N1P9nz.9ll.1P9o0.9ll.1P9",
   "o1.9ll.1P9o2.9ll.3N1P9od.9ll.1863N1P1huh.1hve.1N1P1huj.1hve.eN1P1hut.1hve.3mN1P1hyp.1hyf.1P1hy",
   "q.1hyf.ezN1P1idj.1ida.1P1idj.1idz.a6N1P1int.1inu.1P1int.1ink.1N1P1int.1inx.6zN1P1iuw.1iun.1P1i",
   "ux.1iun.osN1P1jjp.1jjk."]

end Text

end RemoteSurface
