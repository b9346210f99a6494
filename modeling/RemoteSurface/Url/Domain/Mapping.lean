import RemoteSurface.Text.Runs
/-!
How characters are written in a domain name: most stand for themselves, some for other characters,
some for nothing, and some have no place there. The table is the mapping for compatibility
processing of international domain names, version 17, without transitional characters.
-/
namespace RemoteSurface

namespace Domain

/-- What a character becomes. -/
inductive Mapped where
  | same
  | others (cs : List Char)
  | disallowed
deriving DecidableEq

/-- The runs of the mapping: V stands for itself, I for nothing, U and D for the character so many
places up or down, M for the characters given, and X is disallowed. -/
def mappingRuns : List Run := Run.parse <| String.join
  ["1tVqUw.11VwX1D3k.7V1Mw.lk.1V1D21.2V1I1V1Mw.lg.2V2D3k.1Mw.ld.1Ulj.2V1Mw.mf.1D3s.1D23.1V1M1d.6dg",
   ".1g.1M1d.6dg.1e.1M1f.6dg.1g.1VnUw.1V7Uw.xV1U1.1V1U1.1V1U1.1V1U1.1V1U1.1V1U1.1V1U1.1V1U1.1V1U1.",
   "1V1U1.1V1U1.1V1U1.1V1U1.1V1U1.1V1U1.1V1U1.1V1U1.1V1U1.1V1U1.1V1U1.1V1U1.1V1U1.1V1U1.1V1U1.1V1M",
   "2x.lj.1V1M2x.2y.1M2x.2y.1U1.1V1U1.2V1U1.1V1U1.1V1U1.1V1M30.53.1M30.53.1U1.1V1U1.1V1U1.1V1U1.1V",
   "1Mjg.32.1U1.1V1U1.1V1U1.1V1U1.1V1U1.1V1U1.1V1U1.1V1U1.1V1U1.1V1U1.1V1U1.1V1U1.1V1U1.1V1U1.1V1U",
   "1.1V1U1.1V1U1.1V1U1.1V1U1.1V1U1.1V1U1.1V1U1.1V1U1.1V1D3d.1U1.1V1U1.1V1U1.1V1D7g.1V1U5u.1U1.1V1",
   "U1.1V1U5q.1U1.1V2U5p.1U1.2V1U27.1U5m.1U5n.1U1.1V1U5p.1U5r.1V1U5v.1U5t.1U1.3V1U5v.1U5x.1V1U5y.1",
   "U1.1V1U1.1V1U1.1V1U62.1U1.1V1U62.2V1U1.1V1U62.1U1.1V2U61.1U1.1V1U1.1V1U63.1U1.3V1U1.7V1M2s.am.",
   "1M2s.am.1M2s.am.1M30.2y.1M30.2y.1M30.2y.1M32.2y.1M32.2y.1M32.2y.1U1.1V1U1.1V1U1.1V1U1.1V1U1.1V",
   "1U1.1V1U1.1V1U1.2V1U1.1V1U1.1V1U1.1V1U1.1V1U1.1V1U1.1V1U1.1V1U1.1V1U1.2V1M2s.3e.1M2s.3e.1M2s.3",
   "e.1U1.1V1D2p.1D1k.1U1.1V1U1.1V1U1.1V1U1.1V1U1.1V1U1.1V1U1.1V1U1.1V1U1.1V1U1.1V1U1.1V1U1.1V1U1.",
   "1V1U1.1V1U1.1V1U1.1V1U1.1V1U1.1V1U1.1V1U1.1V1D3m.1V1U1.1V1U1.1V1U1.1V1U1.1V1U1.1V1U1.1V1U1.1V1",
   "U1.1V1U1.7V1U8bv.1U1.1V1D4j.1U8bs.2V1U1.1V1D5f.1U1x.1U1z.1U1.1V1U1.1V1U1.1V1U1.1V1U1.2pV1Dg8.1",
   "D23.1Dg8.1Dg1.1D1n.1D1m.1D1h.1Dg0.1Dfz.vV1Mw.li.1Mw.lj.1Mw.lm.1Mw.mg.1Mw.lf.1Mw.ln.2V1D3h.1Dhh",
   ".1Dhb.1Dh7.1D27.2jV2D1s.1V1D1c.1Mlk.ld.1U38.9V1IwV1U1.1V1U1.1V1D57.1V1U1.1V2X1Mw.qh.3V1Dn7.1U3",
   "8.4X1Mw.ld.1Mw.lk.ld.1U12.1Dk0.3U11.1X1U1s.1X2U1r.1VhUw.1X9Uw.zV1U8.1Du.1Dp.1Dd.1D6.1D9.1Df.1D",
   "m.1V1U1.1V1U1.1V1U1.1V1U1.1V1U1.1V1U1.1V1U1.1V1U1.1V1U1.1V1U1.1V1U1.1V1U1.1V1D1i.1D1c.1D1b.1V1",
   "D1o.1D1s.1V1U1.1V1D1i.1U1.2V3D3m.gU28.wUw.1cV1U1.1V1U1.1V1U1.1V1U1.1V1U1.1V1U1.1V1U1.1V1U1.1V1",
   "U1.1V1U1.1V1U1.1V1U1.1V1U1.1V1U1.1V1U1.1V1U1.1V1U1.9V1U1.1V1U1.1V1U1.1V1U1.1V1U1.1V1U1.1V1U1.1",
   "V1U1.1V1U1.1V1U1.1V1U1.1V1U1.1V1U1.1V1U1.1V1U1.1V1U1.1V1U1.1V1U1.1V1U1.1V1U1.1V1U1.1V1U1.1V1U1",
   ".1V1U1.1V1U1.1V1U1.1V1U1.1V1Uf.1U1.1V1U1.1V1U1.1V1U1.1V1U1.1V1U1.1V1U1.2V1U1.1V1U1.1V1U1.1V1U1",
   ".1V1U1.1V1U1.1V1U1.1V1U1.1V1U1.1V1U1.1V1U1.1V1U1.1V1U1.1V1U1.1V1U1.1V1U1.1V1U1.1V1U1.1V1U1.1V1",
   "U1.1V1U1.1V1U1.1V1U1.1V1U1.1V1U1.1V1U1.1V1U1.1V1U1.1V1U1.1V1U1.1V1U1.1V1U1.1V1U1.1V1U1.1V1U1.1",
   "V1U1.1V1U1.1V1U1.1V1U1.1V1U1.1V1U1.1V1U1.1V1U1.1V1U1.1V1U1.1V1U1.1V1U1.1V1U1.1V1X12U1c.2X1aV1M",
   "12d.136.3V2X3V1X1jV8XrV4X6VhXmV1X2gV1M17r.19w.1M18o.19w.1M1c7.19w.1M18q.19w.2sV1X1cV2X1nV2X2tV",
   "eX1nV2X1dV2XfV1XsV2X1V1XbV5XwV7X23V1X39V1M1sl.1to.1M1sm.1to.1M1sn.1to.1M1ss.1to.1M1sx.1to.1M1s",
   "y.1to.1M1t7.1to.1M1tb.1to.10V1X8V2X2V2XmV1X7V1X1V3X4V2X9V2X2V2X4V8X1V4X1M1wh.1x8.1M1wi.1x8.1X1",
   "M1wv.1x8.4V2XpV2X3V1X6V4X2V2XmV1X7V1X1V1M20i.20s.1X1V1M20o.20s.1X2V2X1V1X5V4X2V2X3V3X1V7X1M1zq",
   ".20s.1M1zr.20s.1M1zw.20s.1V1X1M20b.20s.7XhVaX3V1X9V1X3V1XmV1X7V1X2V1X5V2XaV1X3V1X3V2X1VfX4V2Xc",
   "V7X7V1X3V1X8V2X2V2XmV1X7V1X2V1X5V2X9V2X2V2X3V7X3V4X1M275.27w.1M276.27w.1X5V2XiVaX2V1X6V3X3V1X4",
   "V3X2V1X1V1X2V3X2V3X3V3XcV4X5V3X3V1X4V2X1V6X1VeXlV5XdV1X3V1XnV1XgV2X9V1X3V1X4V7X2V1X3V1X2V2X4V2",
   "XaV7XmV1X3V1XnV1XaV1X5V2X9V1X3V1X4V7X2V5X3V1X4V2XaV1X3VcXdV1X3V1X1fV1X3V1X6V4XgV2XqV1X3V1XiV3X",
   "oV1X9V1X1V2X7V3X1V4X6V1X1V1X8V6XaV2X3VcX1eV1M2tp.2sy.7V4XtV11X2V1X1V1X5V1XoV1X1V1XcV1M2x9.2wi.",
   "aV2X5V1X1V1X7V1XaV2X1M2wb.2vt.1M2wb.2w1.2VwXcV1D1.1iV1M30i.33r.4V1X4V1M30s.33r.4V1M30x.33r.4V1",
   "M312.33r.4V1M317.33r.cV1M30g.33p.3V4X2V1M31t.31u.1V1M31t.31w.1M33m.328.1M33m.31t.328.1M33n.328",
   ".1M33n.31t.328.7V1M31t.328.hV1M32q.33r.4V1X4V1M330.33r.4V1M335.33r.4V1M33a.33r.4V1M33f.33r.cV1",
   "M32o.33p.3V1XfV1XdV11X4gV12U5ls.1X1U5ls.5X1U5ls.2X18V1Dw.2qV2I6gV1X4V2X7V1X1V1X4V2X15V1X4V2XxV",
   "1X4V2X7V1X1V1X4V2XfV1X1lV1X4V2X1vV2XwV3XqV6X2eV2X6D8.2XhsV1XsV3X2hV7XmV9XoV9XkVcXdV1X3V1X2VcX1",
   "gV2I14V2XaV6XaV6XbV5IaV6X2hV7X17V5X1yVaXvV1XcV4XcV4X1V3X16V2X5VbX18V4XqV6XbV3X1qV2X1tV1XtV2XbV",
   "6XaV6XeV2X1aV2XcVkX25V1X4mV8X1oV3XfV3X1fV1D4su.1D4st.1D4sk.2D4si.1D4sj.1D4sc.1D4ro.1Ur7n.1U1.1",
   "V5X17D2bk.2X3D2bk.8V8X17V5X18V1D5or.1D5l3.1D5os.1V2D5os.1D5ed.8D5os.1V1D5ot.1D5cq.1D5ou.1D5ot.",
   "2D5os.1D5or.1D5pe.2D5bo.1D1w.1D5ph.2D5pg.1D5bl.2D5bk.1D5pi.1V1D5pg.1D5pf.1D5ja.1D5pf.1D5bz.2D1",
   "q.1D5pi.2D5pf.1D1o.1D5bf.1D5ph.1D1j.3D52j.2D522.1D5q1.1D5pt.2D5pr.2D52s.1D52f.2D52b.dV1D4zf.yV",
   "1D5e1.1D5rt.1D5e0.1D5ny.1D5dv.1D5ru.1D5du.1D5dt.1D5dq.3D5do.1D18.1D5cb.1D5do.1D11.1D5cc.1D5dn.",
   "1D5dp.4D5do.1D5dm.2D5dd.1D5je.2D5d9.1D4c.2D5da.1D5s1.3D5d8.1D553.1sV1U1.1V1U1.1V1U1.1V1U1.1V1U",
   "1.1V1U1.1V1U1.1V1U1.1V1U1.1V1U1.1V1U1.1V1U1.1V1U1.1V1U1.1V1U1.1V1U1.1V1U1.1V1U1.1V1U1.1V1U1.1V",
   "1U1.1V1U1.1V1U1.1V1U1.1V1U1.1V1U1.1V1U1.1V1U1.1V1U1.1V1U1.1V1U1.1V1U1.1V1U1.1V1U1.1V1U1.1V1U1.",
   "1V1U1.1V1U1.1V1U1.1V1U1.1V1U1.1V1U1.1V1U1.1V1U1.1V1U1.1V1U1.1V1U1.1V1U1.1V1U1.1V1U1.1V1U1.1V1U",
   "1.1V1U1.1V1U1.1V1U1.1V1U1.1V1U1.1V1U1.1V1U1.1V1U1.1V1U1.1V1U1.1V1U1.1V1U1.1V1U1.1V1U1.1V1U1.1V",
   "1U1.1V1U1.1V1U1.1V1U1.1V1U1.1V1U1.1V1U1.1V1U1.5V1M2p.ji.1D1m.2V1D5vj.1V1U1.1V1U1.1V1U1.1V1U1.1",
   "V1U1.1V1U1.1V1U1.1V1U1.1V1U1.1V1U1.1V1U1.1V1U1.1V1U1.1V1U1.1V1U1.1V1U1.1V1U1.1V1U1.1V1U1.1V1U1",
   ".1V1U1.1V1U1.1V1U1.1V1U1.1V1U1.1V1U1.1V1U1.1V1U1.1V1U1.1V1U1.1V1U1.1V1U1.1V1U1.1V1U1.1V1U1.1V1",
   "U1.1V1U1.1V1U1.1V1U1.1V1U1.1V1U1.1V1U1.1V1U1.1V1U1.1V1U1.1V1U1.1V1U1.1V1U1.9V8D8.6V2X6D8.2X8V8",
   "D8.8V8D8.6V2X6D8.2X8V1X1D8.1X1D8.1X1D8.1X1D8.8V8D8.1V1D5hh.1V1D5hi.1V1D5hj.1V1D5hk.1V1D5gt.1V1",
   "D5gu.1V1D5gv.2X1M64g.qh.1M64h.qh.1M64i.qh.1M64j.qh.1M64k.qh.1M64l.qh.1M64m.qh.1M64n.qh.1M64g.q",
   "h.1M64h.qh.1M64i.qh.1M64j.qh.1M64k.qh.1M64l.qh.1M64m.qh.1M64n.qh.1M65c.qh.1M65d.qh.1M65e.qh.1M",
   "65f.qh.1M65g.qh.1M65h.qh.1M65i.qh.1M65j.qh.1M65c.qh.1M65d.qh.1M65e.qh.1M65f.qh.1M65g.qh.1M65h.",
   "qh.1M65i.qh.1M65j.qh.1M674.qh.1M675.qh.1M676.qh.1M677.qh.1M678.qh.1M679.qh.1M67a.qh.1M67b.qh.1",
   "M674.qh.1M675.qh.1M676.qh.1M677.qh.1M678.qh.1M679.qh.1M67a.qh.1M67b.qh.2V1M67k.qh.1Mq9.qh.1Mq4",
   ".qh.1X1V1M69i.qh.2D8.1D22.1D5jj.1Mq9.qh.1Mw.lv.1D5j9.1Mw.lv.1Mw.n6.1Mw.lk.n6.1M67o.qh.1Mqf.qh.",
   "1Mq6.qh.1X1V1M69y.qh.1D2e.1D5jw.1D2e.1D5jx.1Mqf.qh.1Mw.lv.lc.1Mw.lv.ld.1Mw.lv.n6.3V1D5kz.2X2V2",
   "D8.1D2s.1D5kc.1X1Mw.lw.lc.1Mw.lw.ld.1Mw.lw.n6.3V1D5kj.4V2D8.1D34.1D5jy.1D7.1Mw.lk.lc.1Mw.lk.ld",
   ".1D68f.2X1M67w.qh.1Mqx.qh.1Mr2.qh.1X1V1M6ba.qh.1D3k.1D5kd.1D3i.1D5kd.1Mqx.qh.1Mw.ld.1Mw.lw.1X1",
   "D6ao.1D6ap.1D6aq.1D6ar.1D6as.1D6at.1D6au.1D6av.1D6aw.1D6ax.1D6ay.1I2V2X1V1D1.5V1Mw.mr.cV3X1V7X",
   "1D6bz.3V1M6cy.6cy.1M6cy.6cy.6cy.1V1M6d1.6d1.1M6d1.6d1.6d1.4V1Mx.x.1V1Mw.lh.8V1M1r.1r.1M1r.x.1M",
   "x.1r.dV1M6cy.6cy.6cy.6cy.7V1D6db.5I5X6I1D6dc.1D6bs.2X6D6dc.1D6dr.1Ubb.1D6db.2D6dx.1D6c1.aD6ds.",
   "1D6e7.1Uav.1D6dr.2D6ed.1X1D6cv.1D6cs.1D6cj.1D6cb.1D5yz.1D6ct.4D6cr.1D6cq.2D6co.3X8V1M36.37.pVe",
   "XxVfX1M2p.1b.2r.1M2p.1b.37.1D6fz.1M4w.2r.1V1M2r.1b.33.1M2r.1b.39.1D624.1V1M4w.2u.2D6g3.1D6g4.1",
   "D6g5.1D6g6.1D6aw.1D6g7.1D6g8.1D6g6.1D6g7.1V1D6g7.1M32.33.2V3D6g9.1D6ga.1D6gb.2V1M37.31.1M38.2t",
   ".30.1M38.31.1V1D6ga.1V1D5st.1V1D6ge.1V1D6gv.1D6di.2D6h6.1V1D6h6.2D6h7.1Us.1D6h2.1D6h1.4D5et.1D",
   "6hc.1V1M2u.2p.3c.1D5to.1D5u2.1D5u3.1D5tr.1U5t.4V1D6ht.2D6hu.2D6hr.6V1M1d.6dg.1j.1M1d.6dg.1l.1M",
   "1d.6dg.1d.1c.1M1d.6dg.1f.1M1e.6dg.1f.1M1d.6dg.1h.1M1e.6dg.1h.1M1f.6dg.1h.1M1g.6dg.1h.1M1d.6dg.",
   "1i.1M1h.6dg.1i.1M1d.6dg.1k.1M1f.6dg.1k.1M1h.6dg.1k.1M1j.6dg.1k.1M1d.6dg.1D6if.1M2x.2x.1M2x.2x.",
   "2x.1M2x.3a.1D6i6.1M3a.2x.1M3a.2x.2x.1M3a.2x.2x.2x.1M2x.3c.1D6i9.1M3c.2x.1M3c.2x.2x.1D6io.2D6iy",
   ".1D6iq.1D6iv.1M2x.2x.1M2x.2x.2x.1M2x.3a.1D6im.1M3a.2x.1M3a.2x.2x.1M3a.2x.2x.2x.1M2x.3c.1D6ip.1",
   "M3c.2x.1M3c.2x.2x.1D6j4.2D6je.1D6j6.3V1U1.5V1M1c.6dg.1f.2V4X4cV1M6qz.6qz.1M6qz.6qz.6qz.1V1M6r2",
   ".6r2.1M6r2.6r2.6r2.6wV2U2jj.73VmXbVlX9D75b.1M1d.1c.1M1d.1d.1M1d.1e.1M1d.1f.1M1d.1g.1M1d.1h.1M1",
   "d.1i.1M1d.1j.1M1d.1k.1M1d.1l.1M1e.1c.1M14.1d.15.1M14.1e.15.1M14.1f.15.1M14.1g.15.1M14.1h.15.1M",
   "14.1i.15.1M14.1j.15.1M14.1k.15.1M14.1l.15.1M14.1d.1c.15.1M14.1d.1d.15.1M14.1d.1e.15.1M14.1d.1f",
   ".15.1M14.1d.1g.15.1M14.1d.1h.15.1M14.1d.1i.15.1M14.1d.1j.15.1M14.1d.1k.15.1M14.1d.1l.15.1M14.1",
   "e.1c.15.kX1M14.2p.15.1M14.2q.15.1M14.2r.15.1M14.2s.15.1M14.2t.15.1M14.2u.15.1M14.2v.15.1M14.2w",
   ".15.1M14.2x.15.1M14.2y.15.1M14.2z.15.1M14.30.15.1M14.31.15.1M14.32.15.1M14.33.15.1M14.34.15.1M",
   "14.35.15.1M14.36.15.1M14.37.15.1M14.38.15.1M14.39.15.1M14.3a.15.1M14.3b.15.1M14.3c.15.1M14.3d.",
   "15.1M14.3e.15.qD76d.qD773.1D796.10hV1M6qz.6qz.6qz.6qz.2vV1M1m.1m.1p.1M1p.1p.1M1p.1p.1p.2tV1M8g",
   "t.mw.47V2X3uV1cU1c.1cV1U1.1V1D8af.1D2xy.1D89z.2V1U1.1V1U1.1V1U1.1V1D8bg.1D8al.1D8bj.1D8bi.1V1U",
   "1.2V1U1.6V1D8pe.1D8p3.2D8cf.1U1.1V1U1.1V1U1.1V1U1.1V1U1.1V1U1.1V1U1.1V1U1.1V1U1.1V1U1.1V1U1.1V",
   "1U1.1V1U1.1V1U1.1V1U1.1V1U1.1V1U1.1V1U1.1V1U1.1V1U1.1V1U1.1V1U1.1V1U1.1V1U1.1V1U1.1V1U1.1V1U1.",
   "1V1U1.1V1U1.1V1U1.1V1U1.1V1U1.1V1U1.1V1U1.1V1U1.1V1U1.1V1U1.1V1U1.1V1U1.1V1U1.1V1U1.1V1U1.1V1U",
   "1.1V1U1.1V1U1.1V1U1.1V1U1.1V1U1.1V1U1.1V1U1.8V1U1.1V1U1.4V1U1.1V5X19V1X1V5X1V2X1kV7X1De.1VeXoV",
   "9X7V1X7V1X7V1X7V1X7V1X7V1X7V1X7V1X3iVyXqV1X4V1Uc32.2bV1Um98.cX1U64g.1U65j.1U65w.1U664.1U66t.1U",
   "680.1U686.1U68p.1U69e.1U6ra.1U6sb.1U6sg.1U6t2.1U6tl.1U6u5.1U6vl.1U6w5.1U6wf.1U70p.1U73a.1U741.",
   "1U745.1U74y.1U756.1U75w.1U768.1U76w.1U78b.1U78s.1U79i.1U7uh.1U7wg.1U897.1U89t.1U8a0.1U8aa.1U8a",
   "r.1U8cu.1U8q2.1U8rd.1U8uo.1U8va.1U8vs.1U8wd.1U8xu.1U8xw.1U97x.1U986.1U98h.1U98t.1U9c0.1U9c7.1U",
   "9cb.1U9fj.1U9fs.1U9g4.1U9gb.1U9hz.1U9if.1U9iw.1U9l3.1Ua17.1Ua2g.1Ua30.1Uanj.1Uann.1Uapx.1Uaqc.",
   "1Uaqo.1Uar8.1Uasa.1Uase.1Uazs.1Ub0f.1Ub1a.1Ubth.1Ubva.1Ubvw.1Ubxh.1Uby4.1Ubyc.1Ubyi.1Ubzx.1Uc0",
   "1.1Uc0w.1Ucuu.1Ud78.1Ud7j.1Ud7n.1Ud7q.1Ud7x.1Ud8e.1Ud8f.1Udan.1Udgm.1Udgq.1Udq4.1Udqd.1Udrq.1U",
   "drw.1Uds4.1Udsb.1Udut.1Uduz.1Ue1a.1Ue1g.1Ue2s.1Ue38.1Ue4i.1Ueb2.1Ueb8.1Uebo.1Uekq.1Ueo7.1Ueoc.",
   "1Uetd.1Uevr.1Uex0.1Uf7h.1Ufb5.1Ufr2.1Ufrs.1Uftc.1Ufuq.1Ufwl.1Ufwv.1Ufx0.1Ufxw.1Ufzz.1Ug08.1Ug9",
   "t.1Ug9z.1Uga7.1Ugaf.1Ugau.1Ugb8.1Ugbb.1Ugdh.1Ugdk.1Ugdp.1Uh4x.1Uh5q.1Uhiq.1Uhj1.1Uhjn.1Uhrh.1U",
   "hrt.1Uhtr.1Uhv0.1Uiaq.1Uib4.1Uibi.1Uicg.1Uidg.1Uiiy.1Uij9.1Uil3.1Uiry.1Uiss.1Uiyk.1Uiz4.1Uiz8.",
   "1Uj5b.1Ujae.1Ujdu.1Ujdz.1Uje3.1Uk40.1Uk48.1Uk8j.1Ukcs.1Ukcu.1Uke4.1Ukh0.1Ukhc.1Ukhf.1Ukhl.1Ukk",
   "a.1Ukl7.1Uklc.1Uklp.1Ukqb.1Ukrp.1Ukrs.1Ukwu.1Ukww.1Ukxe.1Ul4d.1Ul5o.1Ul5u.1Ul7r.1Ul80.1Ul82.1U",
   "l8b.1Ul94.1Ulk2.1Ulv5.1Ulve.1Ulwf.1Ulx0.1Ulx7.1Ulxg.1Ulxj.1Ulym.1Ulyp.1Ulz5.1Ulz9.1Ulzl.1Um0b.",
   "1Um0p.1Um0w.1Um2i.1Um2w.1Um2z.16X1D9gg.1V1D9g4.1fV1D10.1V1U6x5.2U6x7.5V1X2eV2X2V1Mw.9ll.1Mw.9l",
   "m.2V1M9l4.9l6.2nV1M9mb.9mw.5X17V1X2D6cx.1D689.1D6cy.2D689.3D6d0.6D68a.1D6cm.3D6d7.1D6cj.aD6d8.",
   "lD6b2.1I2D6dt.2D68w.1D68t.1D68s.1D68o.1D68l.1D68k.1D6du.1D68i.1D68h.2D6dw.1D6dv.2D6du.1D6dr.1D",
   "6dq.5D6dp.1D6dn.1D6dk.1D6db.1D6d5.1D6d1.2D68h.3D6ct.2D6bn.1D6bl.2D6bd.1D6bc.1D6b3.1D6b1.1X2V1U",
   "5m6.1U5q1.1U5md.1U7d2.1U5mc.1U5na.1U5mb.1Udcp.1U5of.1U5mm.1U5lx.1U7t8.1U7f6.1U5qz.1yVaXgV1M14.",
   "3cw.15.1M14.3cy.15.1M14.3cz.15.1M14.3d1.15.1M14.3d2.15.1M14.3d3.15.1M14.3d5.15.1M14.3d7.15.1M1",
   "4.3d8.15.1M14.3da.15.1M14.3db.15.1M14.3dc.15.1M14.3dd.15.1M14.3de.15.1M14.xz4.15.1M14.yvs.15.1",
   "M14.zc4.15.1M14.108s.15.1M14.10p4.15.1M14.115g.15.1M14.1224.15.1M14.12ys.15.1M14.13f4.15.1M14.",
   "14bs.15.1M14.14s4.15.1M14.158g.15.1M14.15os.15.1M14.1654.15.1M14.13p8.15.1M14.1350.13ic.15.1M1",
   "4.1350.16f8.15.1X1M14.feo.15.1M14.fik.15.1M14.fex.15.1M14.h5n.15.1M14.fis.15.1M14.g31.15.1M14.",
   "fer.15.1M14.g2z.15.1M14.fh9.15.1M14.gg1.15.1M14.kco.15.1M14.m7f.15.1M14.ldg.15.1M14.kdk.15.1M1",
   "4.ssx.15.1M14.h7j.15.1M14.k4l.15.1M14.kkq.15.1M14.kcp.15.1M14.ny6.15.1M14.glp.15.1M14.mm1.15.1",
   "M14.rs1.15.1M14.nz1.15.1M14.gc4.15.1M14.fkz.15.1M14.gos.15.1M14.i1y.15.1M14.nhf.15.1M14.flt.15",
   ".1M14.rt3.15.1M14.ggk.15.1M14.nzh.15.1M14.fm9.15.1M14.pnu.15.1M14.po3.15.1U6x7.1U8qf.1Ua4h.1Ue",
   "h4.8V1M34.38.2t.1M1e.1d.1M1e.1e.1M1e.1f.1M1e.1g.1M1e.1h.1M1e.1i.1M1e.1j.1M1e.1k.1M1e.1l.1M1f.1",
   "c.1M1f.1d.1M1f.1e.1M1f.1f.1M1f.1g.1M1f.1h.1D6lc.2D6lb.3D6la.1D6l9.2D6l8.5D6l7.1Uo0i.1Uox5.1Upd",
   "g.1Uqa3.1Uqqe.1Ur6p.1Us3c.1Uszz.1Utga.1Uucx.1Uut8.1Uv9j.1Uvpu.1Uw65.1M14c8.y5c.1M13p8.13dk.1Ut",
   "9u.1V1U5fk.1U5jf.1U5fr.1U76g.1U5jk.1U63s.1U5fh.1U63o.1U5hx.1U6go.1Uada.1Uc80.1Ube0.1Uae3.1Uitf",
   ".1U780.1Ua51.1Ual5.1Uad3.1Udyj.1U6m1.1Ucmc.1Uhsb.1Udza.1U6cc.1Ue2n.1Ud5p.1U7o8.1Uij1.1U619.1U6",
   "he.1Ubih.1Uk11.1U5m8.1U647.1Ub7k.1U5eu.1U5fs.1U5et.1U8jj.1U6kr.1U6fm.1U831.1U81n.1Udh3.1U5lg.1",
   "Uhsp.1U6g5.1U7l8.1M1f.1i.1M1f.1j.1M1f.1k.1M1f.1l.1M1g.1c.1M1g.1d.1M1g.1e.1M1g.1f.1M1g.1g.1M1g.",
   "1h.1M1g.1i.1M1g.1j.1M1g.1k.1M1g.1l.1M1h.1c.1M1d.kco.1M1e.kco.1M1f.kco.1M1g.kco.1M1h.kco.1M1i.k",
   "co.1M1j.kco.1M1k.kco.1M1l.kco.1M1d.1c.kco.1M1d.1d.kco.1M1d.1e.kco.1M2w.2v.1M2t.36.2v.1M2t.3a.1",
   "M30.38.2s.1Dfi.1Dfh.1Dfg.1Dff.2Dfe.1Dfd.1Dfc.1Dfb.1Dfa.1Df9.1Df8.1Df7.1Df6.1Df5.1Df4.1Df3.1Df1",
   ".1Df0.1Dez.6Dey.1Dew.1Deu.1Des.1Deq.5Deo.1Den.1Dem.6Del.4Dek.1Mfl0.gp8.1M9lu.9n5.9oc.9mw.1M9lu",
   ".9nv.9n9.9lt.1M9lu.9o3.9ne.9lu.1M9lu.9oc.9nv.1M9lw.9mz.9o3.9m8.1M9lw.9o3.9mp.1M9ly.9m1.9o3.1M9",
   "m0.9mh.9m7.9oc.9mx.1M9m0.9oc.9m3.9oc.1M9m2.9o3.9mh.1M9m2.9oc.9nk.1M9m3.9lw.9nu.1M9m3.9nt.9mr.9",
   "mw.1M9m3.9nx.9nu.9oc.1M9m4.9nx.9o3.1M9m4.9o3.9ni.1M9m6.9m4.1M9m6.9mz.9oc.1M9m5.9np.9nu.9oc.1M9",
   "m6.9nv.9mo.9oc.1M9m5.9nx.1M9m5.9nx.9m8.9nt.9nk.1M9m5.9nx.9nl.9oc.9mw.9nv.1M9m5.9nx.9nz.9mr.9mw",
   ".1M9m8.9nt.9nk.1M9m8.9nt.9nk.9mw.9o3.1M9m7.9nv.9mk.9lw.9nx.1M9m7.9nx.9oc.9n1.1M9m9.9oc.9mh.1M9",
   "mb.9nv.9my.1M9mb.9oc.9nh.1M9md.9lw.9m7.9nv.1M9md.9o3.9mp.9oc.9nk.1M9mf.9nu.9o3.9m8.1M9mj.9o3.9",
   "mp.1M9mj.9o3.9mw.1M9mo.9oc.9mh.1M9mv.9mf.1M9mx.9nv.1M9mw.9o3.1M9my.9n2.1M9n2.9mr.9mw.1M9n3.9lw",
   ".9ms.1M9n5.9oc.9mj.9o3.9mw.1M9n5.9oc.9ms.1M9n4.9oc.9nw.9nv.1M9n8.9lu.9mh.9mw.9nv.1M9n8.9m7.9nv",
   ".1M9n8.9mb.1M9n7.9nv.1M9n9.9lt.9nt.9mr.9mx.1M9n9.9lv.9oc.9mw.1M9na.9mr.9mf.9lz.9nv.1M9n9.9nt.9",
   "o3.1M9nc.9m7.9mn.9oc.9nv.1M9ne.9ml.1M9ne.9mz.9n6.1M9nc.9nv.9ms.1M9ne.9o3.9mh.1M9ne.9oc.9mg.1M9",
   "nd.9oc.9mn.1M9nh.9lw.9o3.9mw.1M9ng.9nv.9mw.1M9nf.9o3.1M9nh.9o3.9mx.1M9nf.9oc.9nv.1M9nf.9oc.9o3",
   ".1M9ni.9lw.9m7.9nx.1M9ni.9lw.9nv.1M9ni.9mr.9n3.1M9ni.9nv.9m7.1M9ni.9o3.9mf.9nr.9o3.1M9nj.9m7.9",
   "nx.9o3.1M9nj.9nu.1M9nj.9nu.9n4.9oc.9nv.1M9nl.9m4.1M9nl.9m4.9mw.9o3.1M9nl.9oc.9mw.9nv.1M9no.9oc",
   ".9mx.1M9no.9oc.9nv.1M9nq.9lu.9o3.1M9nu.9mr.9mw.9nv.1M9nu.9nt.1M9nv.9n8.9oc.1M9nv.9oc.9na.9nv.1",
   "M9nw.9nk.1M9nw.9o3.9mw.9ma.9o3.1M9nz.9mr.9mw.1M1c.m9l.1M1d.m9l.1M1e.m9l.1M1f.m9l.1M1g.m9l.1M1h",
   ".m9l.1M1i.m9l.1M1j.m9l.1M1k.m9l.1M1l.m9l.1M1d.1c.m9l.1M1d.1d.m9l.1M1d.1e.m9l.1M1d.1f.m9l.1M1d.",
   "1g.m9l.1M1d.1h.m9l.1M1d.1i.m9l.1M1d.1j.m9l.1M1d.1k.m9l.1M1d.1l.m9l.1M1e.1c.m9l.1M1e.1d.m9l.1M1",
   "e.1e.m9l.1M1e.1f.m9l.1M1e.1g.m9l.1M2w.34.2p.1M2s.2p.1M2p.39.1M2q.2p.36.1M33.3a.1M34.2r.1M2s.31",
   ".1M2s.31.1e.1M2s.31.1f.1M2x.39.1Minn.jdc.1Mk6l.gp8.1Mhlz.l7n.1Mk5q.lh7.1Mkkq.irz.fmi.ny6.1M34.",
   "2p.1M32.2p.1Mqk.2p.1M31.2p.1M2z.2p.1M2z.2q.1M31.2q.1M2v.2q.1M2r.2p.30.1M2z.2r.2p.30.1M34.2u.1M",
   "32.2u.1Mqk.2u.1Mqk.2v.1M31.2v.1M2z.2v.1M2w.3e.1M2z.2w.3e.1M31.2w.3e.1M2v.2w.3e.1M38.2w.3e.1Mqk",
   ".30.1M31.30.1M2s.30.1M2z.30.1M2u.31.1M32.31.1Mqk.31.1M31.31.1M2r.31.1M2z.31.1M31.31.1e.1M2r.31",
   ".1e.1M31.1e.1M2z.31.1e.1M31.31.1f.1M2r.31.1f.1M31.1f.1M2z.31.1f.1M31.6qd.37.1M31.6qd.37.1e.1M3",
   "4.2p.1M2z.34.2p.1M31.34.2p.1M2v.34.2p.1M36.2p.2s.1M36.2p.2s.6qd.37.1M36.2p.2s.6qd.37.1e.1M34.3",
   "7.1M32.37.1Mqk.37.1M31.37.1M34.3a.1M32.3a.1Mqk.3a.1M31.3a.1M2z.3a.1M31.3a.1M34.3b.1M32.3b.1Mqk",
   ".3b.1M31.3b.1M2z.3b.1M31.3b.1M2z.qx.1M31.qx.1X1M2q.35.1M2r.2r.1M2r.2s.1M2r.6qd.2z.2v.1X1M2s.2q",
   ".1M2v.3d.1M2w.2p.1M2w.34.1M2x.32.1M2z.2z.1M2z.31.1M2z.38.1M30.31.1M30.32.1M30.33.2v.1M30.3c.1M",
   "31.2q.1M31.2x.30.1M31.33.30.1M34.2w.1X1M34.34.31.1M34.36.1M37.36.1M37.3a.1M3b.2q.1M3a.6qd.31.1",
   "M2p.6qd.31.1M1d.k4l.1M1e.k4l.1M1f.k4l.1M1g.k4l.1M1h.k4l.1M1i.k4l.1M1j.k4l.1M1k.k4l.1M1l.k4l.1M",
   "1d.1c.k4l.1M1d.1d.k4l.1M1d.1e.k4l.1M1d.1f.k4l.1M1d.1g.k4l.1M1d.1h.k4l.1M1d.1i.k4l.1M1d.1j.k4l.",
   "1M1d.1k.k4l.1M1d.1l.k4l.1M1e.1c.k4l.1M1e.1d.k4l.1M1e.1e.k4l.1M1e.1f.k4l.1M1e.1g.k4l.1M1e.1h.k4",
   "l.1M1e.1i.k4l.1M1e.1j.k4l.1M1e.1k.k4l.1M1e.1l.k4l.1M1f.1c.k4l.1M1f.1d.k4l.1M2v.2p.30.m8dV3X1jV",
   "9X9oVkX1U1.1V1U1.1V1U1.1V1U1.1V1U1.1V1U1.1V1U1.1V1U1.1V1U1.1V1U1.1V1U1.1V1U1.1V1U1.1V1U1.1V1U1",
   ".1V1U1.1V1U1.1V1U1.1V1U1.1V1U1.1V1U1.1V1U1.1V1U1.jV1U1.1V1U1.1V1U1.1V1U1.1V1U1.1V1U1.1V1U1.1V1",
   "U1.1V1U1.1V1U1.1V1U1.1V1U1.1V1U1.1V1U1.1V1Dw2a.1Dw29.2iV8XyV1U1.1V1U1.1V1U1.1V1U1.1V1U1.1V1U1.",
   "1V1U1.3V1U1.1V1U1.1V1U1.1V1U1.1V1U1.1V1U1.1V1U1.1V1U1.1V1U1.1V1U1.1V1U1.1V1U1.1V1U1.1V1U1.1V1U",
   "1.1V1U1.1V1U1.1V1U1.1V1U1.1V1U1.1V1U1.1V1U1.1V1U1.1V1U1.1V1U1.1V1U1.1V1U1.1V1U1.1V1U1.1V1U1.1V",
   "1U1.1V1D1.8V1U1.1V1U1.1V1Dr9g.1U1.1V1U1.1V1U1.1V1U1.1V1U1.4V1U1.1V1Dwmg.2V1U1.1V1U1.3V1U1.1V1U",
   "1.1V1U1.1V1U1.1V1U1.1V1U1.1V1U1.1V1U1.1V1U1.1V1U1.1V1Dwn8.1Dwnj.1Dwnf.1Dwn5.1Dwn8.1V1Dwlu.1Dwm",
   "i.1Dwlx.1Ups.1U1.1V1U1.1V1U1.1V1U1.1V1U1.1V1U1.1V1U1.1V1U1.1V1D1c.1Dwn7.1Draw.1U1.1V1U1.1V1Dwo",
   "7.1U1.1V1U1.1V1U1.1V1U1.1V1U1.1V1U1.1V1U1.1V1U1.1V1Dwu9.kX1Dx32.1Dx3j.1Dx3h.1Dx37.1U1.2V1Dwy9.",
   "1Dwx2.1fV3XaV6X1kV8X1yV8XcV6X38VbXuV3X26V1XbV4XxV1X1jV9XeV2XaV2X2vVoXsVaX6V2X6V2X6V9X7V1X7V1X1",
   "8V1Dtx.1D12.1Dxdf.1Dd.9V1Dxcs.2V4X28Dtzk.1aV2XaV6X8mcVcXnV4X1dV6isX1Dlh4.1Dsul.1Dkzc.1Dldn.1Dr",
   "ar.1Dxqr.1Dwm9.1Dhnv.1Dhnw.1Dvjs.1Dke1.1Dwas.1Dvk4.1Dtuf.1Dpt1.1Do0a.1Dmoh.1Dmdz.1Dm56.1Dkn8.1",
   "Ds9e.1Drne.1Dqwt.1Dqbd.1Dn2z.1Dkhb.1Disp.1Dxp5.1Dwpz.1Ds2h.1Dqo3.1Dmpe.1Dhz6.1Dus1.1Dr3r.1Dms6",
   ".1Dm2o.1Dtp8.1Dnke.1Dmbs.1Duhq.1Dsuq.1Drls.1Dqi7.1Dkm6.1Dxif.1Dx2v.1Dwup.1Dtbg.1Ds4e.1Dqoy.1Dp",
   "qk.1Dnxv.1Dmr3.1Dmoq.1Dl6w.1Djd2.1Diiy.1Di0w.1Dpf3.1Dp8d.1Dof1.1Dn79.1Dk6z.1Dhxd.1Dlt7.1Dvoj.1",
   "Dugv.1Doo4.1Dnuv.1Dqn8.1Dpdp.1Dlfq.1Djf6.1Dvoy.1Duzt.1Dsah.1Drjn.1Drb3.1Doio.1Dobd.1Djk6.1Dww0",
   ".1Dnuw.1Dx2w.1Dx3d.1Dp4q.1Doex.1Dn6v.1Djj8.1Dlp6.1Dtqk.1Dsbe.1Dlsv.1Dxt1.1Dv3s.1Dua6.1Dqfu.1Dq",
   "2a.1Dwuk.1Dpd5.1Dxie.1Dud9.1Dxui.1Drrw.1Dt81.1Dojs.1Dwq0.1Dvta.1Dprg.1Dn51.1Dlvp.1Drzq.1Dkw1.1",
   "Dru2.1Dtpx.1Dnf3.1Dtlh.1Dq35.1Dxqh.1Dx73.1Dx4g.1Dsmx.1Dolw.1Dnil.1Dluz.1Dkhb.1Dwwa.1Dwn2.1Dvm6",
   ".1Duja.1Dt6m.1Dr5y.1Dpcr.1Djq1.1Disd.1Dhyp.1Dhx7.1Dwz3.1Dszp.1Ds2d.1Dkyz.1Dumy.1Du0v.1Dtxs.1Dt",
   "fb.1Drcf.1Dqx6.1Dqa3.1Dp8r.1Dof6.1Dnxk.1Dl0y.1Dn1n.1Dktz.1Dk7l.1Dx39.1Dwze.1Dwkh.1Dr13.1Dmam.1",
   "Dlx3.1Dul5.1Ducu.1Dtnt.1Ds1j.1Dors.1Dqia.1Dxqc.1Dw4w.1Dv5v.1Dusx.1Duc0.1Dqgr.1Dqbp.1Do45.1Dnze",
   ".1Dkfx.1Dji4.1Djfv.1Dja4.1Dxm2.1Dpag.1Dkjn.1Djk0.1Du6w.1Dxtg.1Dxcx.1Dv66.1Dv3y.1Dt9h.1Dse5.1Dq",
   "uq.1Dpz3.1Dn2e.1Dksn.1Dhtj.1Dt31.1Djo8.1Dx1a.1Dswd.1Dst2.1Drrd.1Drhr.1Dqf7.1Dq5w.1Dpk3.1Don3.1",
   "Dj8y.1Dx9g.1Dtyc.1Djmj.1Dxih.1Duyk.1Drn0.1Dl2l.1Duh9.1Du51.1Dssj.1Dqj8.1Djme.1Dx4k.1Dwr3.1Dv3u",
   ".1Dt71.1Dsyb.1Dsoq.1Drum.1Dqfy.1Dq2r.1Do6l.1Dmc8.1Dmbr.1Dkkd.1Djk8.1Dwx8.1Drhu.1Dwr4.1Dqvy.1Dq",
   "c7.1Dmwm.1Djm6.1Dihn.1Di1g.1Dswt.1Droq.1Dnpq.1Dp4c.1Dp20.1Dorr.1Dqpm.1Dr4y.1Dlus.1Dxtp.1Dngo.1",
   "Dx51.1Dx6h.1Duor.1Dtv3.1Doq5.1Dvb3.1Drtz.1Dt3m.1Dl3g.1Dmgs.1Djp8.1Dm7z.1Duns.1Dxcc.1Dwgd.2V1Dv",
   "xy.1V1Dt5q.2V1Dx87.1Dqng.1Dpxp.1Dpgc.1Dpff.1Dpf9.1Dpe4.1Djie.1Dorj.1Do69.1V1Dmxa.1V1Dlyi.2V1Dk",
   "x9.1Dkrt.3V1Dj7f.1Dj73.1Dj5w.1Di9l.1Dksw.1Djnc.1Dxoi.1Dxfu.1Dxd1.1Dx2i.1Dx1s.1Dwys.1Dwih.1Dwfl",
   ".1Dwcw.1Dvzt.1Dvwy.1Dv6f.1Dv66.1Ducp.1Du6u.1Du5t.1Du32.1Dtf6.1Dtb4.1Dt6a.1Dssf.1Drta.1Dros.1Dr",
   "hh.1Dr16.1Dqvy.1Dqi0.1Dpmi.1Dphq.1Dphg.1Dphi.1Dphb.1Dph6.1Dph0.2Dpfp.1Dpas.1Dp90.1Dp06.1Dokj.1",
   "Dojz.1Doig.1Doa0.1Do5y.1Dnsf.1Dnok.1Dnol.1Dnbc.1Dmds.1Dma3.1Dm01.1Dlyi.1Dln5.1Dllp.1Dl2o.1Dkz3",
   ".1Djnp.1Djfu.1Dje7.1Dueu.1U1sw2.1Dnrp.2X1Dy16.1Dxbw.1Dxe2.1Dxrn.1Dxf3.1Dxdh.1Dx4f.1Dx31.1Dwkb.",
   "1Dwmc.1Dwkh.1Dwih.1Dw0y.1Dvyi.1Dvui.1Dvu3.1Dvmm.1Dvh5.1Dur4.1Duqy.1Dumz.1Dul4.1Ducu.1Du9l.1Dub",
   "k.1Du7v.1Du96.1Du55.1Du3c.1Dts9.1Dtpu.1Dtod.1Dth6.1Dt99.1Dt4r.1Dt4o.1Dt32.1Ds9o.1Ds7w.1Drx2.1D",
   "rlp.1Drm6.1Drjs.1Drct.1Dr3i.1Dpva.1Dqy1.1Dquo.1Dqra.1Dqi8.1Dqe4.1Dqco.1Dq6f.1Dq6e.1Dq1o.1Dq18.",
   "1Dq0k.1Dpy7.1Dpyi.1Dpnj.1Dpa3.1Dp2l.1Doxf.1Dor8.1Don0.1Dodv.1Do8d.1Dnkx.1Dngl.1Dmrg.1Dmet.1Dmc",
   "x.1Dmci.1Dm4a.1Dm2q.1Dm40.1Dm2j.1Dm2n.1Dm35.1Dm12.1Dlyu.1Dlo9.1Dl8q.1Dl01.1Dkrv.1Dklr.1Djt6.1D",
   "jqc.1Djn6.1Djji.1Djij.1Dji8.1Djgx.1Diwr.1Di0i.1U1njv.1U1njo.1U1ptw.1D11rp.1D10vv.1D10uz.1U1vuc",
   ".1U1xx6.1U24n0.1Di39.1Di17.12X1M2u.2u.1M2u.2x.1M2u.30.1M2u.2u.2x.1M2u.2u.30.1M37.38.1M37.38.cX",
   "1M12s.12u.1M12s.12d.1M12s.12j.1M132.12u.1M12s.12l.5X1M15l.14k.1V1M16a.14n.1D1cfy.1D1cgh.2D1cgf",
   ".3D1cg9.1D1cfz.1D1cfy.1D1dku.1M161.14x.1M161.14y.1M161.14s.14x.1M161.14s.14y.1M15c.14n.1M15c.1",
   "4o.1M15c.14s.1M15d.14s.1M15e.14s.1M15f.14s.1M15g.14s.1M15h.14s.1M15i.14s.1X1M15k.14s.1M15l.14s",
   ".1M15m.14s.1M15n.14s.1M15o.14s.1X1M15q.14s.1X1M15s.14s.1M15t.14s.1X1M15v.14s.1M15w.14s.1X1M15y",
   ".14s.1M15z.14s.1M160.14s.1M161.14s.1M162.14s.1M15h.14p.1M15d.14v.1M15n.14v.1M15w.14v.1M15c.15o",
   ".1D1cdb.1D1cdc.1D1cd3.1D1cd4.1D1cd5.1D1cd6.1D1cd4.1D1cd5.1D1cd6.1D1cd7.1D1cd6.1D1cd7.1D1cd8.1D",
   "1cd9.1D1cdg.1D1cdh.1D1cdi.1D1cdj.1D1cdf.1D1cdg.1D1cdh.1D1cdi.1D1cdp.1D1cdq.1D1cdr.1D1cds.1D1cc",
   "m.1D1ccn.1D1cco.1D1ccp.1D1cco.1D1ccp.1D1ccq.1D1ccr.1D1cdq.1D1cdr.1D1cds.1D1cdt.1D1cdv.1D1cdw.1",
   "D1cdx.1D1cdy.1D1cdw.1D1cdx.1D1cdy.2D1cdz.1D1ce0.1D1ce1.1D1ce2.1D1cdx.1D1cdy.1D1ce0.1D1ce1.1D1c",
   "e0.1D1ce1.1D1ce8.1D1ce9.1D1cdu.1D1cdv.1D1ce3.1D1ce4.1D1cdh.1D1cdi.1D1cdj.1D1cdk.1D1cdf.1D1cdg.",
   "1D1cdh.1D1cdi.1D1cdf.1D1cdg.1D1cdh.1D1cdi.1D1cdl.1D1cdm.1D1cdn.1D1cdo.1D1cdg.2D1cdh.1D1cdi.1D1",
   "cdj.1D1cdk.1D1cdg.2D1cdh.1D1cdi.1D1cdj.1D1cdk.1D1cdo.1D1cdp.1D1cdq.1D1cdr.1D1cd8.2D1cd9.1D1cda",
   ".xV1D1cfa.1D1cfb.1D1cfc.1D1cfd.1D1ceo.1D1cep.1D1cer.1D1ces.1D1cer.1D1ces.1M1c7.19w.1D1cer.1D1c",
   "es.1D1cez.1D1cf0.1D1cex.1D1cey.1D1ces.1D1cet.1D1ceu.1D1cev.1D1cin.1D1cio.1M17q.17r.1M17q.17r.1",
   "M17q.1cl.1M17q.1cl.1M17q.18o.1M17q.18o.1M17q.1c7.1M17q.1c7.1M17q.1c6.1M17q.1c6.1M17q.1c8.1M17q",
   ".1c8.1M17q.1cg.1M17q.1cg.1M17q.1cg.1M17q.18p.1M17q.18p.1M17q.18p.1D1cfk.1D1cfl.1D1cfm.1D1cfn.1",
   "M17q.17w.1M17q.17x.1M17q.18l.1M17q.18p.1M17q.18q.1M17s.17w.1M17s.17x.1M17s.17y.1M17s.18l.1M17s",
   ".18p.1M17s.18q.1M17u.17w.1M17u.17x.1M17u.17y.1M17u.18l.1M17u.18p.1M17u.18q.1M17v.17w.1M17v.18l",
   ".1M17v.18p.1M17v.18q.1M17w.17x.1M17w.18l.1M17x.17w.1M17x.18l.1M17y.17w.1M17y.17x.1M17y.18l.1M1",
   "83.17w.1M183.17x.1M183.17y.1M183.18l.1M185.17x.1M185.18l.1M186.17w.1M186.17x.1M186.17y.1M186.1",
   "8l.1M187.17x.1M187.18l.1M188.18l.1M189.17w.1M189.18l.1M18a.17w.1M18a.18l.1M18h.17w.1M18h.17x.1",
   "M18h.17y.1M18h.18l.1M18h.18p.1M18h.18q.1M18i.17x.1M18i.18l.1M18i.18p.1M18i.18q.1M18j.17r.1M18j",
   ".17w.1M18j.17x.1M18j.17y.1M18j.18k.1M18j.18l.1M18j.18p.1M18j.18q.1M18k.17w.1M18k.17x.1M18k.17y",
   ".1M18k.18l.1M18k.18p.1M18k.18q.1M18l.17w.1M18l.17x.1M18l.17y.1M18l.18l.1M18l.18p.1M18l.18q.1M1",
   "8m.17w.1M18m.17x.1M18m.17y.1M18m.18l.1M18m.18p.1M18m.18q.1M18n.17w.1M18n.18l.1M18n.18p.1M18n.1",
   "8q.1M18q.17w.1M18q.17x.1M18q.17y.1M18q.18l.1M18q.18p.1M18q.18q.1M180.19s.1M181.19s.1M18p.19s.1",
   "Mw.18s.18x.1Mw.18t.18x.1Mw.18u.18x.1Mw.18v.18x.1Mw.18w.18x.1Mw.18x.19s.1M17q.181.1M17q.182.1M1",
   "7q.18l.1M17q.18m.1M17q.18p.1M17q.18q.1M17s.181.1M17s.182.1M17s.18l.1M17s.18m.1M17s.18p.1M17s.1",
   "8q.1M17u.181.1M17u.182.1M17u.18l.1M17u.18m.1M17u.18p.1M17u.18q.1M17v.181.1M17v.182.1M17v.18l.1",
   "M17v.18m.1M17v.18p.1M17v.18q.1M18h.18p.1M18h.18q.1M18i.18p.1M18i.18q.1M18j.17r.1M18j.18k.1M18j",
   ".18l.1M18j.18p.1M18j.18q.1M18k.18l.1M18k.18p.1M18k.18q.1M18l.17r.1M18l.18l.1M18m.181.1M18m.182",
   ".1M18m.18l.1M18m.18m.1M18m.18p.1M18m.18q.1M18p.19s.1M18q.181.1M18q.182.1M18q.18l.1M18q.18m.1M1",
   "8q.18p.1M18q.18q.1M17q.17w.1M17q.17x.1M17q.17y.1M17q.18l.1M17q.18n.1M17s.17w.1M17s.17x.1M17s.1",
   "7y.1M17s.18l.1M17s.18n.1M17u.17w.1M17u.17x.1M17u.17y.1M17u.18l.1M17u.18n.1M17v.18l.1M17w.17x.1",
   "M17w.18l.1M17x.17w.1M17x.18l.1M17y.17w.1M17y.18l.1M183.17w.1M183.17x.1M183.17y.1M183.18l.1M185",
   ".17x.1M185.17y.1M185.18l.1M186.17w.1M186.17x.1M186.17y.1M186.18l.1M187.17x.1M188.18l.1M189.17w",
   ".1M189.18l.1M18a.17w.1M18a.18l.1M18h.17w.1M18h.17x.1M18h.17y.1M18h.18l.1M18i.17x.1M18i.18l.1M1",
   "8j.17w.1M18j.17x.1M18j.17y.1M18j.18k.1M18j.18l.1M18k.17w.1M18k.17x.1M18k.17y.1M18k.18l.1M18k.1",
   "8n.1M18l.17w.1M18l.17x.1M18l.17y.1M18l.18l.1M18m.17w.1M18m.17x.1M18m.17y.1M18m.18l.1M18m.18n.1",
   "M18n.17w.1M18n.18l.1M18n.19s.1M18q.17w.1M18q.17x.1M18q.17y.1M18q.18l.1M18q.18n.1M17q.18l.1M17q",
   ".18n.1M17s.18l.1M17s.18n.1M17u.18l.1M17u.18n.1M17v.18l.1M17v.18n.1M183.18l.1M183.18n.1M184.18l",
   ".1M184.18n.1M18j.18k.1M18j.18l.1M18k.18l.1M18m.18l.1M18m.18n.1M18q.18l.1M18q.18n.1M18g.18u.18x",
   ".1M18g.18v.18x.1M18g.18w.18x.1M187.18p.1M187.18q.1M189.18p.1M189.18q.1M18a.18p.1M18a.18q.1M183",
   ".18p.1M183.18q.1M184.18p.1M184.18q.1M17x.18p.1M17x.18q.1M17w.18p.1M17w.18q.1M17y.18p.1M17y.18q",
   ".1M185.18p.1M185.18q.1M186.18p.1M186.18q.1M184.17w.1M184.17x.1M184.17y.1M184.18l.1M184.181.1M1",
   "83.181.1M185.181.1M186.181.1M187.18p.1M187.18q.1M189.18p.1M189.18q.1M18a.18p.1M18a.18q.1M183.1",
   "8p.1M183.18q.1M184.18p.1M184.18q.1M17x.18p.1M17x.18q.1M17w.18p.1M17w.18q.1M17y.18p.1M17y.18q.1",
   "M185.18p.1M185.18q.1M186.18p.1M186.18q.1M184.17w.1M184.17x.1M184.17y.1M184.18l.1M184.181.1M183",
   ".181.1M185.181.1M186.181.1M184.17w.1M184.17x.1M184.17y.1M184.18l.1M183.18n.1M184.18n.1M187.18l",
   ".1M183.17w.1M183.17x.1M183.17y.1M184.17w.1M184.17x.1M184.17y.1M187.18l.1M188.18l.1M17r.18r.1M1",
   "7r.18r.iV1M17u.17w.18l.1M17u.17x.17w.1M17u.17x.17w.1M17u.17x.18l.1M17u.17y.18l.1M17u.18l.17w.1",
   "M17u.18l.17x.1M17u.18l.17y.1M17w.18l.17x.1M17w.18l.17x.1M17x.18l.18q.1M17x.18l.18p.1M183.17x.1",
   "7w.1M183.17w.17x.1M183.17w.18p.1M183.18l.17x.1M183.18l.17x.1M183.18l.17w.1M183.18l.18l.1M183.1",
   "8l.18l.1M185.17x.17x.1M185.17x.17x.1M185.18l.18l.1M184.17x.18l.1M184.17x.18l.1M184.17w.18q.1M1",
   "84.18l.17y.1M184.18l.17y.1M184.18l.18l.1M184.18l.18l.1M186.17x.18p.1M186.17y.18l.1M186.17y.18l",
   ".1M187.18l.17x.1M187.18l.17x.1M187.18l.18l.1M187.18l.18q.1M189.17w.18l.1M189.18l.18l.1M189.18l",
   ".18l.1M189.18l.18p.1M18a.18l.18l.1M18a.18l.18q.1M18a.18l.18p.1M18h.17y.18l.1M18h.17y.18l.1M18i",
   ".18l.17x.1M18i.18l.18l.1M18k.17x.18l.1M18k.17x.18q.1M18k.17x.18p.1M18k.17w.17w.1M18k.17w.17w.1",
   "M18k.17y.18l.1M18k.17y.18l.1M18k.18l.17x.1M18k.18l.17x.1M18l.17x.17w.1M18l.17x.18l.1M18l.17x.1",
   "8q.1M18l.17w.17x.1M18l.17w.18l.1M18l.17y.17w.1M18l.17y.18l.2V1M18l.17w.17y.1M18n.18l.17w.1M18n",
   ".18l.18l.1M18m.17x.18l.1M18m.17x.18p.1M18m.17w.18l.1M18m.17w.18l.1M18m.17w.18p.1M18m.18l.18q.1",
   "M18m.18l.18p.1M18q.18l.18l.1M18q.18l.18l.1M17s.17y.18q.1M17u.17w.18q.1M17u.17w.18p.1M17u.17y.1",
   "8q.1M17u.17y.18p.1M17u.18l.18q.1M17u.18l.18p.1M17w.18l.18q.1M17w.17x.18p.1M17w.18l.18p.1M183.1",
   "7y.18p.1M185.17x.18q.1M184.17x.18q.1M186.17x.18q.1M18k.17w.18q.1M18k.18l.18q.1M18q.17x.18q.1M1",
   "8q.17w.18q.1M18q.18l.18q.1M18l.18l.18q.1M18i.18l.18q.1M18m.17x.18q.1M18i.18l.17x.1M18k.17x.18l",
   ".1M189.18l.18q.1M18j.18l.18q.1M18m.17w.17x.1M18l.17y.18q.1M18k.17w.18l.1M18j.18l.18l.1M18k.17w",
   ".18l.1M18m.17w.17x.1M17w.17x.18q.1M17x.17w.18q.1M18l.17w.18q.1M18h.18l.18q.1M17s.17x.18q.1M18j",
   ".18l.18l.1M189.17w.18l.1M185.18l.18l.1M183.17y.18q.1M18m.17w.18q.8VwX1M185.18k.1ci.1M18i.18k.1",
   "ci.1M17r.18k.18k.18n.1M17r.18j.17s.181.1M18l.17x.18l.17z.1M185.18k.189.18l.1M181.183.18o.18k.1",
   "M189.18k.18q.18n.1M18o.183.18k.18l.1M185.18k.18p.1M185.18k.18p.w.17r.18k.18k.18n.w.189.18k.18q",
   ".18n.w.18o.183.18k.18l.1M17w.18k.w.17w.18k.17r.18k.18n.1M181.1cc.17r.18k.3VgI1D1e5g.1D14pc.1X2",
   "D1e55.1D1e5w.1D1e53.2D14ox.7XgV1X1D17vh.1D17vj.1D1e50.1D1e51.2D1e6l.1D1e4c.1D1e4b.2D14px.2D14q",
   "3.2D14qb.2D14qf.4D14qd.2V1D1e5o.1D1e5n.1Mw.lh.1Mw.lh.1Mw.lh.1Mw.lh.1D1e5q.1D1e5r.1D1e5s.1D1e78",
   ".1D14r4.2X1D1e6x.1D1e6z.1D1e6v.1D1e7q.1D17wk.2D1e7l.1D1e5c.1D1e5b.2D14qx.1D1e7w.1D1e7u.2D1e7r.",
   "1D1e7q.1D1e7c.1D1e7b.1D1e7d.1X1D1e6k.2D1e85.1D1e7f.4X1Mw.18r.1M18g.18r.1Mw.18s.1V1Mw.18t.1X1Mw",
   ".18u.1M18g.18u.1Mw.18v.1M18g.18v.1Mw.18w.1M18g.18w.1Mw.18x.1M18g.18x.1Mw.18y.1M18g.18y.2D1d27.",
   "2D1d28.2D1d29.2D1d2a.2D1d2b.1D1d2c.1D1d2d.2D1d2e.2D1d2f.1D1d2g.1D1d2h.2D1d2i.2D1d2j.1D1d2k.1D1",
   "d2l.2D1d2m.1D1d2n.1D1d2o.2D1d2p.1D1d2q.1D1d2r.2D1d2s.1D1d2t.1D1d2u.2D1d2v.1D1d2w.1D1d2x.2D1d2y",
   ".2D1d2z.2D1d30.2D1d31.2D1d32.1D1d33.1D1d34.2D1d35.1D1d36.1D1d37.2D1d38.1D1d39.1D1d3a.2D1d3b.1D",
   "1d3c.1D1d3d.2D1d3e.1D1d3f.1D1d3g.2D1d3h.1D1d3i.1D1d3j.2D1d3k.1D1d3l.1D1d3m.2D1d3n.1D1d3o.1D1d3",
   "p.1D1d3q.1D1d3k.1D1d3l.1D1d3m.2D1d3n.1D1d3o.1D1d3p.2D1d3q.1D1d3r.1D1d3s.2D1d3t.1D1d3u.1D1d3v.2",
   "D1d3w.1D1d3x.1D1d3y.2D1d3z.1D1d40.1D1d41.2D1d42.1D1d43.1D1d44.2D1d45.2D1d46.2D1d47.1D1d48.1D1d",
   "49.1D1d4a.1M18k.17m.1M18k.17m.1M18k.17n.1M18k.17n.1M18k.17p.1M18k.17p.1M18k.17r.1M18k.17r.2X1I",
   "1XwD1ecg.qD1ebk.10D1ecg.2D168q.1D1eer.2D14ye.1D14yr.1D14ru.1D14s4.1D14ue.1D14ud.1D14uc.1D14ub.",
   "1D14ua.1D14sp.1D14so.1D14sn.1D14to.1D14s4.1D14un.1D14um.1D14ul.1D14uk.2D14uj.1D14ui.1D14uh.1D1",
   "4ug.1D14uf.1D14ue.1D14ud.1D14uc.1D14ub.1D14ua.1D14u9.1D14u8.1D14u6.1D14u5.1D14u4.6D14u3.1D14u1",
   ".1D14tz.1D14tx.1D14tv.5D14tt.1D14ts.1D14tr.6D14tq.1D14tp.1D14tm.2D14w5.1I2D1b4x.1D1b09.1D1b4y.",
   "2D1b09.3D1b50.6D1b0a.1D1b4m.3D1b57.1D1b4j.aD1b58.3X6D1b35.2X6D1b37.2X6D1b39.2X3D1b3b.3X2D1ef2.",
   "1D1eeu.1Mw.lg.1D1ef2.1D1ef4.1D183h.1X1D178m.4D17x5.1D174d.1D1737.hXcV1XqV1XjV1X2V1XfV2XeVyX3fV",
   "5X3V4X19V3X2gV1XdV3X1V1bX1aV3mXtV3X1dVfXsV4X10V9XuV5X17V5XuV1X11V4XeV16X14U14.3aV2XaV6X10U14.4",
   "X10V4X14V8X1gVbX1VbU13.1XfU13.1X7U13.1X2U13.1XbV1XfV1X7V1X2V3X1gVcX8nV9XmVaX8VoX1V2D1fht.1D1fv",
   "h.1D1fjf.1D1fle.1X1D1fj8.1Di76.1D1fj8.1D1fja.2D1flh.1D1a7w.1D1fli.1D1fld.1D1fjb.1D1fl9.1D1flc.",
   "1D1flf.1D1fjt.1D1fu6.1D1fju.1D1flc.1D1fkk.2D1fjj.1D1flb.1U16js.1Diz3.1D1flc.1U16jq.1D1fki.1U16",
   "jp.1D1fvu.2D1fl9.1D1fzo.1D1fl8.1U16jl.2D1fl7.1D1fl6.1D1fk3.1D1fk6.1Di86.1D1fk7.1D1fl3.1D17b3.1",
   "X1D1fkz.2D1fki.1D1fkt.3D1fqu.1U16j5.1U16jo.1xX6V2X1V1X18V1X2V3X1V2XnV1X20V8X9V1cXjV1X2V5XxV3Xr",
   "V5XrV12X1kV4XkV2X1eV1X2V5X8V1X3V1XtV2X3V4XaV7X9V7X1sVwX13V4XcV9X1iV3XtV2XrV5XqV7X4VcX7V28X21V1",
   "jX1fU1s.dX1fV7X1aV8XaV6XgVmUw.3XtV8X2V5sXvV1X16V1X3V2X2VgX6V8X9VxX1aV8X16VmXqV12XsVkXnV9X26V4X",
   "10V9X1qV1X5VdXpV7XaV6X1hV1XiV8X13V9X2oV1XkVbXiV1X1bV1qX7V1X1V1X4V1XfV1XbV6X1nV5XaV6X4V1X8V2X2V",
   "2XmV1X7V1X2V1X5V1XaV2X2V2X3V2X1V6X1V5X7V2X7V3X5VbXaV1X1V2X1V1X12V1XaV1X1V2X1V1X4V1XaV1X2V8X2Vt",
   "X2kV1X5VuX20V8XaV4mX1iV2X12VyX1xVbXaV6XdVjX1mV6XaV6XkVsXrV2XfV4XnV55X1oV2sXwUw.1fVcX8V2X1V2X8V",
   "1X2V1XuV1X2V2XcV9XaV1yX8V2X1aV2XbVrX20V8X2bVdX21V7XaV2eX8V2gXyVeXaV6X9V1X19V1XeVaXtV3XwV2XmV1X",
   "eV21X7V1X2V1X18V3X1V1X2V1X9V8XaV6X6V1X2V1X11V1X2V1X6V7XaV6X18V4XaV6uXpV7XhV1X15V3XtV2dX1VfX1eV",
   "dXpnV2uX33V1X5VbX5gV218X2rVdXtsVgXmVaX32zV5Xg7V5a1X1mV1c6XftV7XvV1XaV4X29V1XaV6XuV2X6VaX1yVaXa",
   "V1X7V1XlV5XjVc0X1mV5iXwUw.1nV5XpUr.2XpV18X23V4X1lV7XhV1sX5VbX7V9X5p2V15XwV2pX37V6ppX4V1X7V1X2V",
   "1X83VfX1VtX3V2X1VeX4V8Xb0V1s4X2zV5XdV3X9V7XaV2X4V4I318X5yVqD2iyd.aD2j0g.3V3Xc4V6XnVfXhVfX1aV2X",
   "nV9X38V1oX6uVaX13V2X1hV1M2jx3.2jxh.1M2jx4.2jxh.1M2jx4.2jxh.2jxq.1M2jx4.2jxh.2jxr.1M2jx4.2jxh.2",
   "jxs.1M2jx4.2jxh.2jxt.1M2jx4.2jxh.2jxu.eV8I1sV1M2jzt.2jxh.1M2jzu.2jxh.1M2jzt.2jxh.2jxq.1M2jzu.2",
   "jxh.2jxq.1M2jzt.2jxh.2jxr.1M2jzu.2jxh.2jxr.16VlX1yV3eXkVcXkVcX2fV9XpV3rXqD2kdb.qD2ke1.qD2ker.7",
   "D2kfh.1XiD2kfh.qD2kg7.qD2kgx.1D2khn.1X2D2khn.2X1D2khn.2X2D2khn.2X4D2khn.1X8D2khn.4D2kid.1X1D2k",
   "id.1X7D2kid.1XbD2kid.qD2kj3.qD2kjt.2D2kkj.1X4D2kkj.2X8D2kkj.1X7D2kkj.1XqD2kl9.2D2klz.1X4D2klz.",
   "1X5D2klz.1X1D2klz.3X7D2klz.1XqD2kmp.qD2knf.qD2ko5.qD2kov.qD2kpl.qD2kqb.qD2kr1.qD2krr.qD2ksh.qD",
   "2kt7.qD2ktx.qD2kun.qD2kvd.1D2kqb.1D2kj2.2XhD2k8n.1D2k8x.7D2k8n.1D2e9m.hD2k9d.1D2k9c.7D2k9d.1D2",
   "eah.1D2k9z.1D2k9x.1D2k9w.1D2k9l.1D2k9r.1D2k9t.hD2ka9.1D2kaj.7D2ka9.1D2eb8.hD2kaz.1D2kay.7D2kaz",
   ".1D2ec3.1D2kbl.1D2kbj.1D2kbi.1D2kb7.1D2kbd.1D2kbf.hD2kbv.1D2kc5.7D2kbv.1D2ecu.hD2kcl.1D2kck.7D",
   "2kcl.1D2edp.1D2kd7.1D2kd5.1D2kd4.1D2kct.1D2kcz.1D2kd1.hD2kdh.1D2kdr.7D2kdh.1D2eeg.hD2ke7.1D2ke",
   "6.7D2ke7.1D2efb.1D2ket.1D2ker.1D2keq.1D2kef.1D2kel.1D2ken.hD2kf3.1D2kfd.7D2kf3.1D2eg2.hD2kft.1",
   "D2kfs.7D2kft.1D2egx.1D2kgf.1D2kgd.1D2kgc.1D2kg1.1D2kg7.1D2kg9.1D2kfh.1D2kfi.2XaD2l5q.aD2l60.aD",
   "2l6a.aD2l6k.aD2l6u.i4VfX5V1XfVuoXvV6X6V5xX7V1XhV2X7V1X2V1X5V5X9D2m0w.3D2m0v.bD2m0u.1D2m0s.2D2m",
   "0r.1D1pz5.1D2lwy.1D2m0m.1D2m0l.1D2lwl.1D2ly8.1D2lxd.9D2m1t.2D2m1s.2D2m1q.1D2m1p.6D2m1o.2D2m1n.",
   "1D2lzq.1D2m1e.1D2m1g.1D2m17.1D2lz4.1D1q1n.1D2lz0.xX1V34X19V3XeV2XaV4X2V8wXvVhX1mV5X1VcwX16V5yX",
   "17V4X1V5cXvV1XmV8X2V68X7V1X4V1X2V1XfV1X5hV2XgV15XyUy.16V4XaV4X2VltX1wV24X1pV5eX2D2od5.1D2od2.1",
   "D2od0.1X1D2ocd.1D2od0.1D2od6.1D2ocx.1D2ocf.4D2ocn.1D2od7.1D2od2.1D2ocv.1D2od8.1D2ocw.1D2ode.1D",
   "2odc.2D2odn.1D2odl.1D2odk.1D2odf.1D2ode.1D2odd.1D2oby.1D2o9v.1D2oal.1D2oc0.1X1D2oe1.1D2ody.1X1",
   "D2od9.2X1D2oe2.1X1D2odb.4D2odj.1D2oe3.1D2ody.1D2odr.1D2oe4.1D2ods.1X1D2oe8.2D2oej.1D2oeh.1X1D2",
   "oeb.1X1D2oe9.6X1D2oeu.4X1D2oey.1X1D2oe7.1X1D2oef.1X1D2oef.1D2oez.1D2oeu.1X1D2of0.1D2oeo.1X1D2o",
   "f4.2X1D2ofd.1X1D2of7.1X1D2of5.1X1D2obn.1X1D2ods.1X1D2oft.1D2ofq.1X1D2of1.2X1D2ofu.1D2ofl.1D2of",
   "3.1D2ofb.1X2D2ofb.1D2ofv.1D2ofq.1D2ofj.1D2ofw.1D2ofk.1X1D2og0.2D2ogb.1D2og9.1X1D2og3.1D2og2.1D",
   "2og1.1D2oem.1X1D2od9.1X2D2ogp.1D2ogm.1D2ogk.2D2ofx.1D2ogk.1D2ogq.1D2ogh.1D2ofz.1X3D2og7.1D2ogr",
   ".1D2ogm.1D2ogf.1D2ogs.1D2ogg.1D2ogy.1D2ogw.2D2oh7.1D2oh5.1D2oh4.1D2ogz.1D2ogy.1D2ogx.5X1D2ohl.",
   "1D2ohi.1D2ohg.1X1D2ogt.1D2ohg.1D2ohm.1D2ohd.1D2ogv.1X3D2oh3.1D2ohn.1D2ohi.1D2ohb.1D2oho.1D2ohc",
   ".1D2ohu.1D2ohs.2D2oi3.1D2oi1.1D2oi0.1D2ohv.1D2ohu.1D2oht.1gX2V7iX18V4X2sVcXfV2XfV1XfV1X11VbX1M",
   "1c.18.1M1d.18.1M1e.18.1M1f.18.1M1g.18.1M1h.18.1M1i.18.1M1j.18.1M1k.18.1M1l.18.5V1M14.2p.15.1M1",
   "4.2q.15.1M14.2r.15.1M14.2s.15.1M14.2t.15.1M14.2u.15.1M14.2v.15.1M14.2w.15.1M14.2x.15.1M14.2y.1",
   "5.1M14.2z.15.1M14.30.15.1M14.31.15.1M14.32.15.1M14.33.15.1M14.34.15.1M14.35.15.1M14.36.15.1M14",
   ".37.15.1M14.38.15.1M14.39.15.1M14.3a.15.1M14.3b.15.1M14.3c.15.1M14.3d.15.1M14.3e.15.1M9hw.37.9",
   "hx.1D2q4o.1D2q4a.1M2r.2s.1M3b.3e.1VqD2q4v.1M2w.3a.1M31.3a.1M37.2s.1M37.37.1M34.34.3a.1M3b.2r.q",
   "V1M31.2r.1M31.2s.1M31.36.zV1M2s.2y.tV1kXqV1M9kr.9jf.1M9mb.9mb.1D2gr1.dX1D26yt.1D28ca.1D29ty.1D",
   "2gr0.1D2avc.1D28sb.1D1z5f.1D28ry.1D2aus.1D267t.1D241l.1D26bm.1D2a4v.1D27ip.1D2aa9.1D26b3.1D2a6",
   "b.1D21nj.1D239f.1D1ym2.1D28tw.1D29rg.1D24gi.1D26xe.1D26s3.1D2azt.1D2azl.1D1xwh.1D27uu.1D2ayo.1",
   "D29tn.1D26ug.1D1ygw.1D26zi.1D22ep.1D227t.1D29t8.1D24l1.1D2625.1D2627.1D239h.1D2a4n.1D29hg.1D1x",
   "pq.4X1M9hw.kdo.9hx.1M9hw.fex.9hx.1M9hw.fik.9hx.1M9hw.i2x.9hx.1M9hw.m9l.9hx.1M9hw.jf7.9hx.1M9hw",
   ".nh3.9hx.1M9hw.gd9.9hx.1M9hw.k0n.9hx.7X1D27jt.1D29uq.eX6V4aXrdV3XhV3XdV3X62V6XcV4X1VfXcV4X1kV8",
   "XaV6X14V8XuV2XcV4X2VeX9V13X9kV8XeV2XdV3XbV3X1lV1X1V4XgV2XcV4XaV7X43V1X2kVaD2sao.1VslXwyoVwX3dq",
   "V2X4geV2X5rlVfXhaV1wiX1D3qo3.1D3qo9.1D3qo1.1D1crl.1D3qg4.1D3qdz.1D3qdn.1D3qbp.1D3q8e.1D3q7k.1D",
   "3q5f.1D3q64.1D3vqm.1D1brn.1D3q2p.1D3q2j.1D3q24.1D3q1m.1D1bzq.1D3vq2.1D3q25.1D3q14.1D1byj.1D3q0",
   "w.1D3q0k.1D3qkt.1D3q0e.1D3q06.1Dk71.1D3pyg.1D3py3.1D3vpc.1D3pwl.1D3pwb.1D3pv4.1D3pv0.1D3vnz.1D",
   "3psu.1D3pst.1D3ps3.1D3pri.2D3pr8.1D3pqs.1D3ppf.1D3pp8.1D3pp0.1D3poc.1D3po3.1D3po2.1D3po3.1D3po",
   "4.1D1b0o.1D3jyd.1D3pm4.1D3plk.1D1as5.1D3pla.1D3pl5.1D3pkl.1D3pge.1D3pj9.1D3piu.1D3phz.1D3pge.1",
   "D3pe3.1D3pde.1D3pbk.1D3pb5.1D3pa9.1D3paa.1D3p9q.1D3p99.1D3p92.1D3p8o.1D3oz9.1D3p6u.1D3oza.1D3p",
   "4t.1D3p3v.1D3pzd.1D3omb.1D3ouc.1D3otb.1D3osn.1D3owa.1D3oro.1D3orq.1D3ooc.1D18xh.1D3omg.1D3omc.",
   "1D3oly.1D3olf.1D3ol8.1D3ojh.1D18l4.1D18jb.1D3ofq.1D3oeg.1D3oe5.1D3ogd.1D3ocg.1D3vcp.1D3vcc.1D3",
   "o81.1D3o6k.1D3o6l.1D17z8.1D3o2y.1D3o2e.1D3o20.1D3o1p.1D17q1.1D3o1f.1D3o19.1D3ndt.1D3o0j.1D3v91",
   ".1D3nyv.1D3nyi.1D3nw9.1D3nxp.1D176f.1D3nsp.1D176f.1D3nrk.1D3nro.1D3nr8.2D3nog.1D3v4k.1D3nnr.1D",
   "3nml.1D3nm1.1D3nku.1D3v3a.1D16h2.1D3v2m.1D3niz.1D3nix.1D3niv.1D3nic.1Dgsd.1D3ngy.1D165c.1D165d",
   ".1D3gk2.1D3ng2.1D3ng3.1D3v0v.1D1333.1Dtry.1D3nef.1D3ne7.1D3v08.1D3ncy.1D3nbk.1D3nbb.1D3nae.1D3",
   "n6n.1D3uxz.1D3uyu.1D3n67.1D15g0.1D3n4u.1D3n1a.1D3n17.1D3n16.1D3n19.1D3n00.1D3mzh.1D3myi.1D3myx",
   ".1D3myn.1D3mxd.1D3mwu.1D3mwr.1D3mw2.1D3mvs.1D3mtz.1D3mro.1D3mqq.1D3mnb.1D14mk.1D3mnw.1D3mpq.1D",
   "3mmr.1D3mm1.1D3mjd.1D14gd.1D3mhp.1D3mkb.1D3ml4.1D3us4.1D3mfu.1D3mfa.1D3meg.1D3mfj.1D3uqj.1D3m9",
   "l.1D3m8t.1D13nk.1D3m5k.1D3lxw.1D3m2s.1D3ulx.1D3m0u.1D3umg.1D3unh.1D3q68.1D3q66.1D3lxw.1D3m0p.1",
   "D3gvd.1D3svy.1D3lxd.1D3lxa.1D3lx5.1D3lvh.1D3lvt.1D12xm.1D3ul1.1D3lr9.1D3luj.1D3lov.1D3lnh.1D12",
   "t2.1D3lna.1D3lqe.1D3ljm.1D3uiy.1D3lie.1D3lfq.1D3lds.1D3l8j.1D12dl.1D3l76.1D3ufq.1D3l5a.1D11zd.",
   "1D3l3x.1D3uec.1D3l35.1D3l1x.2D3l17.1D11m2.1D17fx.1D11j3.1D3kx8.1D116n.1D3ku5.1D3kts.1D3kwn.1D3",
   "krt.1D3kqq.1D3kp6.1D3kqp.1D3kpm.1D3kp8.1D3kow.1D1148.1D3kr7.1D3kk9.1D3kij.1D3u8n.1D3kg0.1D3kg5",
   ".1D10sc.1D3klx.1D3kbl.1D10oi.1D10n7.1D3k98.1D3k62.1D3k6u.1D3k6y.1D3u68.1D3k5p.1D3k4b.1D3k4i.1D",
   "3k31.1D1c6u.1D3jyv.1D103e.1D3jwi.1Dzuc.1D3jso.1D3jsc.1D3jrm.1Dzdn.1D3jqc.1D3jps.1Dz5d.1Dyz7.1D",
   "3jji.1D3jj2.1D3tz2.1D3jie.1D3tys.1D3tyt.1D3jdz.1D3jdf.1D3jcv.1D3jcc.1D3jag.1D3tw8.1D3j80.1Dy67",
   ".1D3j7c.1Dy3p.1D3j60.1D16l6.1D3j1m.1Dxi2.1Dxhg.1Dxdl.1D3tqa.1D3tpz.1D3ivg.1Dx8u.1Dx8w.1Dx7u.1D",
   "x75.2D3iuf.1D3iug.1D3ita.1D3tow.1D3irj.1D3tol.1D3tme.1Dwmo.1D3im8.1D3ikj.1D3iis.1D3tke.1Dw8c.1",
   "D3if1.1Dw56.1Dw40.1D3idj.1D3ib0.1D3tih.1D3i8p.1D3i8g.1D3i8c.1Dvkw.1Dvcm.1Dvcn.1D3i41.1D3tcu.1D",
   "v5i.1D3hy4.1D3hy2.1D3tbx.1Duzp.1D3hqs.1D3t8n.1D3hq8.1D3hqe.1D3hpm.1Dued.1D3hmx.1D3t64.1D3hk7.1",
   "D3hil.1D3hgr.1D3t4t.1Dtvu.1Dtv0.1D3t3v.1Dtr0.1D3h8c.1Dto9.1D3h7n.1D3h4v.1D3h4l.1Dtcx.1Dtax.1D3",
   "h25.1Dt7a.1D3h1r.1D134x.1D3t0s.1D3h00.1D3gxs.1D3szd.1D3gw7.1D3oi9.1Dstc.1Dssz.1D133q.1D133i.1D",
   "3gqy.1D3gqw.1D3e27.1D3swz.1D3gn2.1D3gn9.1D3gms.1D3q3j.1D3gma.1D3gm9.1D3gm0.1D3gkw.1Ds4b.1D3gkz",
   ".1D3gjg.1D3ghj.1D3gfi.1D3gjd.1D3gf4.1D3gdz.1D3gaw.1D3gi5.1D3gev.1D3geu.1D3gef.1Drxq.1Drp6.1Drt",
   "d.1D3ssc.1D3g6v.1D3g6u.1D3g5w.1Dqg1.1D3g3s.1Drcx.1D3sr5.1D3sr2.1Dr9b.1Dr1b.1D3sqv.1D3fxf.1D3fx",
   "4.1D3fwu.1D3fwt.1D3fv2.1D3fw0.1D3fsb.1D3ftk.1D3fpe.1D3fro.1D3fpu.1D3fp4.1D3so8.1D3fmn.1D3fls.1",
   "D3snd.1D3fj7.1D3fj5.1Dpy6.1D3ffz.1D3fft.1D3slv.1D3ff3.1D3w27.1Dpi5.1Dpd2.1D3si7.1D3shz.1D3f3j.",
   "1D3f1f.1D3ex3.1D3erh.1Doq3.1D3ep5.1D3eok.1D3em3.1D3ejk.1Do89.1D1brp.1D3ehb.1D3ehr.1D3egc.1D1bl",
   "r.1D3ea2.1D3e7b.1Dmxa.1Dmwk.1D3dxq.1D3dv6.1D3dub.1Dmnr.1D3du3.1D3dm7.2D3dht.1D3dke.1D3d9u.1D3d",
   "93.1Dlpv.1D3cyr.1D3ryy.1D3cxl.1Dlfe.1D3rws.1D3cq8.1D3o02.1D3cnm.1Dkoh.1Dkil.1D3rt6.1D3rsz.1D3c",
   "ii.1Dk4x.1D3rre.1Dk13.1D3chf.1D3chg.1D3cgn.1Djt7.1D3cbk.1D3ro0.1D3c9n.1D3c66.1D3c5g.1D3c3t.1D3",
   "rju.1Diqh.1D3bw8.1D3bnv.1D3bin.1D3rcv.1D3rc1.1D3bfs.1Dhmq.1D3rbt.1Dhl9.1Dhdx.1Dhab.1D3b6i.1D3r",
   "9c.1D3b4u.1D3b4q.1D3b4k.1D3b4b.1D3b45.1D3b35.1Dgm5.15uX3t7V5X6juVf62uX6oI"]

/-- What a character of a run becomes. -/
def Mapped.ofRun (c : Char) : Run → Mapped
  | ⟨_, _, 'V', _⟩ => .same
  | ⟨_, _, 'I', _⟩ => .others []
  | ⟨_, _, 'U', [places]⟩ => .others [Char.ofNat (c.toNat + places)]
  | ⟨_, _, 'D', [places]⟩ => .others [Char.ofNat (c.toNat - places)]
  | ⟨_, _, 'M', codes⟩ => .others (codes.map Char.ofNat)
  | _ => .disallowed

/-- What a character becomes; beyond the last run nothing is allowed. -/
def mapping (c : Char) : Mapped :=
  ((Run.find? c.toNat mappingRuns).map (Mapped.ofRun c)).getD .disallowed

/-- The characters that stand for a character. -/
def Mapped.chars? (c : Char) : Mapped → Option (List Char)
  | .same => some [c]
  | .others cs => some cs
  | .disallowed => none

end Domain

end RemoteSurface
